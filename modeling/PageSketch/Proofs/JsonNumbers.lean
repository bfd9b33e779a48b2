import PageSketch.Json.Reader
import PageSketch.Proofs.WholeNumbers

/-! # Numbers in JSON texts

The numbers that are read from a text are finite: those that do not fit are refused as they
are read. This is kept by every step of the two machines that read a text, one for its tokens
and one for its values. -/

namespace PageSketch.Json

variable {α : Type} [Scalar α]

/-- All numbers in the value are finite, and whole ones fit into 64 bits. -/
inductive IsFinite : Json α → Prop
  | null : IsFinite .null
  | bool {value : Bool} : IsFinite (.bool value)
  | integer {value : Int} (small : value.natAbs < 2 ^ 64) : IsFinite (.integer value)
  | real {value : α} (finite : Scalar.isFinite value = true) : IsFinite (.real value)
  | text {value : String} : IsFinite (.text value)
  | array {items : List (Json α)} (each : ∀ item ∈ items, IsFinite item) :
      IsFinite (.array items)
  | object {members : List (String × Json α)}
      (each : ∀ name value, (name, value) ∈ members → IsFinite value) :
      IsFinite (.object members)

/-! ## Tokens -/

namespace Token

/-- The number that the token stands for, if any, is finite. -/
def IsFinite (token : Token α) : Prop :=
  match token with
  | .integer value => value.natAbs < 2 ^ 64
  | .real value => Scalar.isFinite value = true
  | _ => True

theorem natAbs_lt_of_ofWhole? {negative : Bool} {magnitude : Nat} {value : Int}
    (whole : ofWhole? negative magnitude = some value) : value.natAbs < 2 ^ 64 := by
  have half : Nat.pow 2 63 < 2 ^ 64 := by decide
  cases negative with
  | true =>
      rw [ofWhole?, if_pos rfl] at whole
      split at whole
      · cases whole
        omega
      · cases whole
  | false =>
      rw [ofWhole?, if_neg Bool.false_ne_true] at whole
      split at whole
      · next small =>
          cases whole
          exact small
      · cases whole

theorem isFinite_of_ofNumeral? {numeral : Numeral} {token : Token α}
    (read : ofNumeral? numeral = some token) : token.IsFinite := by
  rcases Option.map_eq_some_iff.mp read with ⟨value, meant, rfl⟩
  cases numeral with
  | decimal negative digits exponent =>
      rw [Scalar.ofNumeral?] at meant
      split at meant
      · next finite =>
          cases meant
          exact finite
      · cases meant
  | infinity negative => cases meant
  | notANumber => cases meant

theorem isFinite_of_ofNumber? {word : List Char} {token : Token α}
    (read : ofNumber? word = some token) : token.IsFinite := by
  rw [ofNumber?] at read
  generalize (if word.head? = some '-' then word.tail else word) = magnitude at read
  split at read
  · cases read
  · split at read
    · split at read
      · next value whole =>
          cases read
          exact natAbs_lt_of_ofWhole? whole
      · exact isFinite_of_ofNumeral? read
    · split at read
      · cases read
      · rcases Option.bind_eq_some_iff.mp read with ⟨numeral, _, meant⟩
        exact isFinite_of_ofNumeral? meant
    · rcases Option.bind_eq_some_iff.mp read with ⟨numeral, _, meant⟩
      exact isFinite_of_ofNumeral? meant

theorem isFinite_of_ofWord? {word : List Char} {token : Token α}
    (read : ofWord? word = some token) : token.IsFinite := by
  rw [ofWord?] at read
  split at read
  · cases read
    trivial
  · cases read
    trivial
  · cases read
    trivial
  · exact isFinite_of_ofNumber? read

end Token

/-! ## The text as a whole -/

/-- What every step of a fold keeps is true of its outcome. -/
theorem invariant_foldlM {σ β : Type} {step : σ → β → Option σ} {Fine : σ → Prop}
    {items : List β} {first last : σ}
    (keeps : ∀ item ∈ items, ∀ {state next : σ}, Fine state → step state item = some next →
      Fine next)
    (begun : Fine first) (run : items.foldlM step first = some last) : Fine last := by
  induction items generalizing first with
  | nil =>
      cases run
      exact begun
  | cons item rest induction =>
      rw [List.foldlM_cons] at run
      rcases Option.bind_eq_some_iff.mp run with ⟨next, stepped, others⟩
      exact induction (fun other member => keeps other (List.mem_cons_of_mem item member))
        (keeps item List.mem_cons_self begun stepped) others

namespace Lexer

def IsFinite (lexer : Lexer α) : Prop := ∀ token ∈ lexer.tokens, token.IsFinite

theorem IsFinite.close? {lexer : Lexer α} (finite : lexer.IsFinite) {tokens : List (Token α)}
    (closed : lexer.close? = some tokens) : ∀ token ∈ tokens, token.IsFinite := by
  rw [Lexer.close?] at closed
  split at closed
  · cases closed
    exact finite
  · rcases Option.map_eq_some_iff.mp closed with ⟨word, read, rfl⟩
    exact List.forall_mem_cons.mpr ⟨Token.isFinite_of_ofWord? read, finite⟩
  · cases closed

theorem isFinite_of_mark? {character : Char} {token : Token α}
    (mark : mark? character = some token) : token.IsFinite := by
  rw [mark?.eq_def] at mark
  split at mark <;> cases mark <;> trivial

theorem IsFinite.step? {lexer next : Lexer α} {character : Char} (finite : lexer.IsFinite)
    (stepped : lexer.step? character = some next) : next.IsFinite := by
  rw [Lexer.step?] at stepped
  split at stepped
  · rcases Option.map_eq_some_iff.mp stepped with ⟨progress, _, rfl⟩
    cases progress with
    | inside read escape => exact finite
    | closed read => exact List.forall_mem_cons.mpr ⟨trivial, finite⟩
  · split at stepped
    · rcases Option.map_eq_some_iff.mp stepped with ⟨tokens, closed, rfl⟩
      exact finite.close? closed
    · split at stepped
      · rcases Option.map_eq_some_iff.mp stepped with ⟨tokens, closed, rfl⟩
        exact finite.close? closed
      · split at stepped
        · next mark known =>
            rcases Option.map_eq_some_iff.mp stepped with ⟨tokens, closed, rfl⟩
            exact List.forall_mem_cons.mpr ⟨isFinite_of_mark? known, finite.close? closed⟩
        · split at stepped <;> cases stepped <;> exact finite

end Lexer

theorem isFinite_of_tokens? {text : List Char} {tokens : List (Token α)}
    (read : tokens? text = some tokens) : ∀ token ∈ tokens, token.IsFinite := by
  rcases Option.map_eq_some_iff.mp read with ⟨reversed, scanned, rfl⟩
  rcases Option.bind_eq_some_iff.mp scanned with ⟨lexer, run, closed⟩
  have finite : lexer.IsFinite := by
    refine invariant_foldlM (fun _ _ _ _ => Lexer.IsFinite.step?) ?_ run
    exact fun _ none => nomatch none
  intro token member
  exact finite.close? closed token (List.mem_reverse.mp member)

/-! ## Values -/

/-- All values that are complete are finite. -/
def Frame.IsFinite : Frame α → Prop
  | .array items => ∀ item ∈ items, item.IsFinite
  | .object members | .member members _ =>
      ∀ name value, (name, value) ∈ members → value.IsFinite

namespace Reader

def IsFinite : Reader α → Prop
  | .reading frames _ => ∀ frame ∈ frames, frame.IsFinite
  | .complete value => value.IsFinite

theorem isFinite_of_deliver {value : Json α} {frames : List (Frame α)} {next : Reader α}
    (finite : value.IsFinite) (outside : ∀ frame ∈ frames, frame.IsFinite)
    (delivered : deliver value frames = some next) : next.IsFinite := by
  rw [deliver.eq_def] at delivered
  split at delivered
  · cases delivered
    exact finite
  · cases delivered
    rcases List.forall_mem_cons.mp outside with ⟨inside, outside⟩
    exact List.forall_mem_cons.mpr ⟨List.forall_mem_cons.mpr ⟨finite, inside⟩, outside⟩
  · cases delivered
    rcases List.forall_mem_cons.mp outside with ⟨inside, outside⟩
    refine List.forall_mem_cons.mpr ⟨fun name value member => ?_, outside⟩
    rcases List.mem_cons.mp member with here | earlier
    · cases here
      exact finite
    · exact inside name value earlier
  · cases delivered

theorem isFinite_of_enter {limit : Nat} {frames : List (Frame α)} {frame : Frame α}
    {expected : Expected} {next : Reader α} (finite : frame.IsFinite)
    (outside : ∀ frame ∈ frames, frame.IsFinite)
    (entered : enter limit frames frame expected = some next) : next.IsFinite := by
  rw [enter] at entered
  split at entered
  · cases entered
    exact List.forall_mem_cons.mpr ⟨finite, outside⟩
  · cases entered

theorem isFinite_of_readValue {limit : Nat} {frames : List (Frame α)} {token : Token α}
    {next : Reader α} (finite : token.IsFinite) (outside : ∀ frame ∈ frames, frame.IsFinite)
    (read : readValue limit frames token = some next) : next.IsFinite := by
  cases token with
  | null => exact isFinite_of_deliver .null outside read
  | bool value => exact isFinite_of_deliver .bool outside read
  | integer value => exact isFinite_of_deliver (.integer finite) outside read
  | real value => exact isFinite_of_deliver (.real finite) outside read
  | text value => exact isFinite_of_deliver .text outside read
  | openArray =>
      refine isFinite_of_enter ?_ outside read
      exact fun _ none => nomatch none
  | openObject =>
      refine isFinite_of_enter ?_ outside read
      exact fun _ _ none => nomatch none
  | closeArray | closeObject | comma | colon => cases read

theorem isFinite_of_readName {frames : List (Frame α)} {token : Token α} {next : Reader α}
    (outside : ∀ frame ∈ frames, frame.IsFinite)
    (read : readName frames token = some next) : next.IsFinite := by
  rw [readName.eq_def] at read
  split at read
  · cases read
    rcases List.forall_mem_cons.mp outside with ⟨inside, outside⟩
    exact List.forall_mem_cons.mpr ⟨inside, outside⟩
  · cases read

theorem isFinite_of_close {frames : List (Frame α)} {token : Token α} {next : Reader α}
    (outside : ∀ frame ∈ frames, frame.IsFinite)
    (closed : close frames token = some next) : next.IsFinite := by
  rw [close.eq_def] at closed
  split at closed
  · rcases List.forall_mem_cons.mp outside with ⟨inside, outside⟩
    exact isFinite_of_deliver (.array fun item member => inside item (List.mem_reverse.mp member))
      outside closed
  · rcases List.forall_mem_cons.mp outside with ⟨inside, outside⟩
    refine isFinite_of_deliver (.object fun name value member => ?_) outside closed
    exact inside name value (List.mem_reverse.mp member)
  · cases closed

theorem isFinite_of_readSeparator {frames : List (Frame α)} {token : Token α} {next : Reader α}
    (outside : ∀ frame ∈ frames, frame.IsFinite)
    (read : readSeparator frames token = some next) : next.IsFinite := by
  rw [readSeparator.eq_def] at read
  split at read
  · cases read
    exact outside
  · cases read
    exact outside
  · exact isFinite_of_close outside read

theorem IsFinite.step? {limit : Nat} {reader next : Reader α} {token : Token α}
    (finite : reader.IsFinite) (number : token.IsFinite)
    (stepped : reader.step? limit token = some next) : next.IsFinite := by
  rw [Reader.step?.eq_def] at stepped
  split at stepped
  · cases stepped
  · exact isFinite_of_readValue number finite stepped
  · exact isFinite_of_close finite stepped
  · exact isFinite_of_readValue number finite stepped
  · exact isFinite_of_readName finite stepped
  · exact isFinite_of_close finite stepped
  · exact isFinite_of_readName finite stepped
  · cases stepped
    exact finite
  · cases stepped
  · exact isFinite_of_readSeparator finite stepped

end Reader

/-- Numbers in a value that is read from a text are finite. -/
theorem isFinite_of_ofString? {text : String} {value : Json α}
    (read : ofString? text = some value) : value.IsFinite := by
  rcases Option.bind_eq_some_iff.mp read with ⟨tokens, scanned, rest⟩
  rcases Option.bind_eq_some_iff.mp rest with ⟨reader, run, complete⟩
  have finite : reader.IsFinite := by
    refine invariant_foldlM (fun token member _ _ state => ?_) ?_ run
    · exact state.step? (isFinite_of_tokens? scanned token member)
    · exact fun _ none => nomatch none
  cases reader with
  | reading frames expected => cases complete
  | complete value' =>
      cases complete
      exact finite

end PageSketch.Json
