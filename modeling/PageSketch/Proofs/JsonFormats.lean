import Mathlib.Data.List.Forall2
import PageSketch.Json.Record
import PageSketch.Proofs.JsonNumbers

/-! # Formats

A format says how values are written as JSON and how they are read. Values whose numbers are
finite are read as they were written, and numbers that are read are finite. Formats of records
are put together from those of their fields. -/

namespace PageSketch.Json

variable {α β : Type} [Scalar α] {encode : β → Json α} {decode? : Json α → Option β}
  {Fine : β → Prop}

/-- What is fine is read as it was written, and what is read from finite numbers is fine. -/
structure Format (encode : β → Json α) (decode? : Json α → Option β) (Fine : β → Prop) :
    Prop where
  restores : ∀ {value : β}, Fine value → decode? (encode value) = some value
  notNull : ∀ {value : β}, Fine value → encode value ≠ .null
  fine : ∀ {json : Json α} {value : β}, json.IsFinite → decode? json = some value → Fine value

/-- A format for a field, which may have no value. -/
structure Slot (encode : β → Option (Json α)) (decode? : Option (Json α) → Option β)
    (Fine : β → Prop) : Prop where
  restores : ∀ {value : β}, Fine value → decode? (encode value) = some value
  fine : ∀ {slot : Option (Json α)} {value : β}, (∀ json ∈ slot, json.IsFinite) →
    decode? slot = some value → Fine value

theorem mapM_eq_some {γ δ : Type} {step : γ → Option δ} {items : List γ} {values : List δ} :
    items.mapM step = some values ↔
      List.Forall₂ (fun item value => step item = some value) items values := by
  induction items generalizing values with
  | nil => cases values <;> simp
  | cons item rest induction =>
      rw [List.mapM_cons]
      constructor
      · intro mapped
        rcases Option.bind_eq_some_iff.mp mapped with ⟨value, stepped, others⟩
        rcases Option.bind_eq_some_iff.mp others with ⟨tail, later, equal⟩
        cases equal
        exact .cons stepped (induction.mp later)
      · intro related
        cases related with
        | cons stepped others => rw [stepped, induction.mpr others]; rfl

theorem exists_of_mapM {γ δ : Type} {step : γ → Option δ} {items : List γ} {values : List δ}
    (mapped : items.mapM step = some values) {value : δ} (member : value ∈ values) :
    ∃ item ∈ items, step item = some value := by
  have related := mapM_eq_some.mp mapped
  clear mapped
  induction related with
  | nil => cases member
  | @cons item first items rest stepped _ induction =>
      rcases List.mem_cons.mp member with rfl | later
      · exact ⟨item, List.mem_cons_self, stepped⟩
      · rcases induction later with ⟨other, listed, here⟩
        exact ⟨other, List.mem_cons_of_mem item listed, here⟩

/-! ## Single values -/

namespace Format

theorem text : Format (Json.text : String → Json α) text? fun _ => True where
  restores _ := rfl
  notNull _ := nofun
  fine _ _ := trivial

theorem bool : Format (Json.bool : Bool → Json α) bool? fun _ => True where
  restores _ := rfl
  notNull _ := nofun
  fine _ _ := trivial

theorem character : Format (fun character : Char => (.text character.toString : Json α)) char?
    fun _ => True where
  restores {character} _ := by
    rw [char?, Char.toString_eq_singleton, String.toList_singleton]
  notNull _ := nofun
  fine _ _ := trivial

theorem real [Scalar.Wholes α] : Format (ofReal : α → Json α) real? fun value =>
    Scalar.isFinite value = true where
  restores finite := by
    rw [ofReal, if_pos finite]
    rfl
  notNull finite := by
    rw [ofReal, if_pos finite]
    exact nofun
  fine {json value} finite read := by
    cases finite with
    | integer small =>
        cases read
        exact Scalar.Wholes.isFinite_ofDecimal _ small
    | real finite =>
        cases read
        exact finite
    | _ => cases read

end Format

/-! ## Fields -/

namespace Format

theorem required (format : Format encode decode? Fine) :
    Slot (fun value => some (encode value)) (Json.required decode?) Fine where
  restores := format.restores
  fine {slot value} finite read := by
    rcases Option.bind_eq_some_iff.mp read with ⟨json, rfl, decoded⟩
    exact format.fine (finite json rfl) decoded

theorem defaulted (format : Format encode decode? Fine) (default : β) (plain : Fine default) :
    Slot (fun value => some (encode value)) (Json.defaulted decode? default) Fine where
  restores := format.restores
  fine {slot value} finite read := by
    cases slot with
    | none =>
        cases read
        exact plain
    | some json => exact format.fine (finite json rfl) read

theorem optional (format : Format encode decode? Fine) :
    Slot (Option.map encode) (Json.optional decode?) fun value? =>
      ∀ value ∈ value?, Fine value where
  restores {value?} fine := by
    cases value? with
    | none => rfl
    | some value =>
        have fine := fine value rfl
        -- A value that is written as null would be taken for none.
        rw [Option.map_some, Json.optional]
        · rw [format.restores fine, Option.map_some]
        · exact format.notNull fine
  fine {slot value?} finite read := by
    rw [Json.optional.eq_def] at read
    split at read
    · cases read
      exact nofun
    · cases read
      exact nofun
    · rcases Option.map_eq_some_iff.mp read with ⟨value, decoded, rfl⟩
      rintro _ ⟨⟩
      exact format.fine (finite _ rfl) decoded

/-! ## Lists -/

theorem list (format : Format encode decode? Fine) :
    Format (ofList encode) (list? decode?) fun values => ∀ value ∈ values, Fine value where
  restores {values} fine := by
    rw [ofList, list?, mapM_eq_some, List.forall₂_map_left_iff]
    exact List.forall₂_same.mpr fun value member => format.restores (fine value member)
  notNull _ := nofun
  fine {json values} finite read := by
    cases finite with
    | array each =>
        intro value member
        rcases exists_of_mapM read member with ⟨item, listed, here⟩
        exact format.fine (each item listed) here
    | _ => cases read

theorem nonempty (format : Format encode decode? Fine) :
    Slot (nonempty? encode) (Json.defaulted (list? decode?) []) fun values =>
      ∀ value ∈ values, Fine value where
  restores {values} fine := by
    cases values with
    | nil => rfl
    | cons value rest => exact format.list.restores fine
  fine := (format.list.defaulted [] nofun).fine

end Format

/-! ## Records -/

/-- The members of an object with the fields that have a value. -/
def present (fields : List (String × Option (Json α))) : List (String × Json α) :=
  fields.filterMap fun (name, value) => value.map (name, ·)

omit [Scalar α] in
theorem names_present_sublist (fields : List (String × Option (Json α))) :
    ((present fields).map Prod.fst).Sublist (fields.map Prod.fst) := by
  induction fields with
  | nil => exact .slnil
  | cons field rest induction =>
      rcases field with ⟨name, _ | value⟩
      · exact induction.cons name
      · exact induction.cons_cons name

omit [Scalar α] in
/-- A name leads to its field, if no name occurs twice. -/
theorem lookup_present {fields : List (String × Option (Json α))}
    (distinct : (fields.map Prod.fst).Nodup) :
    ∀ field ∈ fields, (present fields).lookup field.1 = field.2 := by
  induction fields with
  | nil => exact nofun
  | cons first rest induction =>
      rcases List.nodup_cons.mp distinct with ⟨fresh, distinct⟩
      have absent : (present rest).lookup first.1 = none := by
        refine List.lookup_eq_none_iff.mpr fun member listed => bne_iff_ne.mpr fun same => ?_
        exact fresh (same ▸ (names_present_sublist rest).subset (List.mem_map_of_mem listed))
      intro field member
      rcases List.mem_cons.mp member with rfl | member
      · rcases field with ⟨name, _ | value⟩
        · exact absent
        · exact List.lookup_cons_self
      · have other : field.1 ≠ first.1 := fun same => fresh (same ▸ List.mem_map_of_mem member)
        have found := induction distinct field member
        rcases first with ⟨name, _ | value⟩
        · exact found
        · change ((name, value) :: present rest).lookup field.1 = field.2
          rw [List.lookup_cons, beq_false_of_ne other]
          exact found

omit [Scalar α] in
theorem slots?_ofFields {names : List String} {fields : List (String × Option (Json α))}
    (named : fields.map Prod.fst = names) (distinct : names.Nodup) :
    slots? names (ofFields fields) = some (fields.map Prod.snd) := by
  have part := named ▸ names_present_sublist fields
  have known : ((present fields).map Prod.fst).all (names.contains ·) = true :=
    List.all_eq_true.mpr fun name member => List.contains_iff_mem.mpr (part.subset member)
  have found : names.map ((present fields).lookup ·) = fields.map Prod.snd := by
    rw [← named, List.map_map]
    exact List.map_congr_left (lookup_present (named ▸ distinct))
  rw [ofFields, slots?, if_pos ⟨known, distinct.sublist part⟩]
  exact congrArg some found

theorem isFinite_of_slots? {names : List String} {json : Json α}
    {slots : List (Option (Json α))} (finite : json.IsFinite)
    (taken : slots? names json = some slots) :
    ∀ slot ∈ slots, ∀ value ∈ slot, value.IsFinite := by
  rintro _ member value rfl
  cases finite with
  | object each =>
      rw [slots?] at taken
      split at taken
      · cases taken
        rcases List.mem_map.mp member with ⟨name, _, found⟩
        rcases List.lookup_eq_some_iff.mp found with ⟨before, after, split, _⟩
        exact each name value (split ▸ by simp)
      · cases taken
  | array each =>
      rw [slots?] at taken
      split at taken
      · cases taken
        rcases List.mem_append.mp member with given | missing
        · rcases List.mem_map.mp given with ⟨item, listed, equal⟩
          exact each value (Option.some.inj equal ▸ listed)
        · cases (List.mem_replicate.mp missing).2
      · cases taken
  | _ => cases taken

/-- The format of a record whose fields have different names. -/
theorem Format.record {names : List String} {fields : β → List (String × Option (Json α))}
    {build : List (Option (Json α)) → Option β}
    (named : ∀ value, (fields value).map Prod.fst = names) (distinct : names.Nodup)
    (restores : ∀ {value}, Fine value → build ((fields value).map Prod.snd) = some value)
    (fine : ∀ {slots value}, (∀ slot ∈ slots, ∀ json ∈ slot, json.IsFinite) →
      build slots = some value → Fine value) :
    Format (fun value => ofFields (fields value)) (fun json => (slots? names json).bind build)
      Fine where
  restores {value} holds := by
    rw [slots?_ofFields (named value) distinct]
    exact restores holds
  notNull _ := nofun
  fine {json value} finite read := by
    rcases Option.bind_eq_some_iff.mp read with ⟨slots, taken, built⟩
    exact fine (isFinite_of_slots? finite taken) built

end PageSketch.Json
