import PageSketch.Proofs.PageNumbering

/-! # Limits of ranges

A range of pages that is limited to a count gives as many of its first pages. Its new end is
computed without loss, although the end of an open range is the largest number there is. -/

namespace PageSketch

namespace PageRange

variable {range limited : PageRange} {count : Nat}

/-- The end is the smaller one of two, of which the one that is computed may be too large. -/
theorem val_min_advance (upper lower : PageNumber) (count : Nat) :
    (if upper ≤ lower.advance count then upper else lower.advance count).val =
      min upper.val (lower.val + count) := by
  have largest : upper.val ≤ 2 ^ 64 - 1 := Nat.le_of_lt_succ upper.isLt
  rw [PageNumber.advance]
  split
  · next small =>
      rw [apply_ite Fin.val, Nat.min_def]
      rfl
  · next large =>
      have beyond : 2 ^ 64 ≤ lower.val + count := Nat.le_of_not_lt large
      have most : upper ≤ .last := Fin.le_last upper
      rw [if_pos most, Nat.min_eq_left (by omega)]

/-- What a limit makes of a range: nothing else if there is no count or only the last page is
meant, and otherwise a new end. -/
theorem exists_limit (range : PageRange) (count : Nat) :
    ∃ limited, range.limit count = .ok limited ∧ limited.lower = range.lower ∧
      limited.upper.val =
        if count = 0 ∨ range.isLastOnly then range.upper.val
        else min range.upper.val (range.lower.val + (count - 1)) := by
  rw [limit]
  split
  · exact ⟨range, rfl, rfl, rfl⟩
  · have final := val_min_advance range.upper range.lower (count - 1)
    have ordered : range.lower ≤ if range.upper ≤ range.lower.advance (count - 1) then range.upper
        else range.lower.advance (count - 1) := by
      have order : range.lower.val ≤ range.upper.val := range.lower_le_upper
      rw [Fin.le_def, final]
      omega
    refine ⟨⟨_, _, range.one_le_lower, ordered⟩, ?_, rfl, final⟩
    rw [ofEnds, dif_pos range.one_le_lower, dif_pos ordered]

theorem eq_of_ends (lower : limited.lower = range.lower)
    (upper : limited.upper.val = range.upper.val) : limited = range := by
  rcases limited with ⟨low, high, _, _⟩
  rcases range with ⟨low', high', _, _⟩
  cases lower
  cases Fin.ext upper
  rfl

end PageRange

namespace Page

variable {α : Type} {pages : List (Page α)} {range limited : PageRange} {count : Nat}

theorem length_select_le (lastOnly : range.isLastOnly = true) :
    (select range pages).length ≤ 1 := by
  rw [select, if_pos lastOnly]
  cases last? pages <;> simp

/-- A range whose end is limited gives the first pages of the whole range. -/
theorem select_of_upper (counted : range.isLastOnly = false)
    (lower : limited.lower = range.lower)
    (upper : limited.upper.val = min range.upper.val (range.lower.val + count))
    (numbered : numbers pages = List.range' 1 pages.length) :
    select limited pages = (select range pages).take (count + 1) := by
  have countedToo : limited.isLastOnly = false := by
    rw [PageRange.isLastOnly, lower]
    exact counted
  have first := range.one_le_lower
  have final : range.lower.val - 1 + (count + 1) = range.lower.val + count := by omega
  rw [select_eq_slice countedToo numbered, select_eq_slice counted numbered, List.take_drop,
    List.take_take, final, upper, lower, Nat.min_comm]

end Page

namespace PageRange

/-- Limiting a range to a count of pages works for all ranges and counts. The range begins where
it began, it stays closed if it was closed, and it means the last page only if it did so. Its
end is what exact arithmetic gives. In a document, it gives the first pages of the range, as
many as the count says, or all for zero. -/
theorem limit_selects_first (range : PageRange) (count : Nat) :
    ∃ limited, range.limit count = .ok limited ∧
      limited.lower = range.lower ∧ limited.isLastOnly = range.isLastOnly ∧
      (range.upper ≠ .last → limited.upper ≠ .last) ∧
      (limited.upper.val =
        if count = 0 ∨ range.isLastOnly then range.upper.val
        else min range.upper.val (range.lower.val + (count - 1))) ∧
      ∀ {α : Type} (pages : List (Page α)), Page.numbers pages = List.range' 1 pages.length →
        Page.select limited pages =
          if count = 0 then Page.select range pages
          else (Page.select range pages).take count := by
  rcases range.exists_limit count with ⟨limited, limits, lower, upper⟩
  refine ⟨limited, limits, lower, ?_, ?_, upper, fun pages numbered => ?_⟩
  · rw [isLastOnly, isLastOnly, lower]
  · intro closed endless
    have notBeyond : limited.upper ≤ range.upper := by
      rw [Fin.le_def, upper]
      split
      · exact Nat.le_refl _
      · exact Nat.min_le_left ..
    exact closed (le_antisymm (Fin.le_last _) (endless ▸ notBeyond))
  · by_cases unlimited : count = 0
    · rw [if_pos (.inl unlimited)] at upper
      rw [if_pos unlimited, eq_of_ends lower upper]
    · rw [if_neg unlimited]
      cases lastOnly : range.isLastOnly with
      | true =>
          rw [if_pos (.inr lastOnly)] at upper
          have few : (Page.select range pages).length ≤ 1 := Page.length_select_le lastOnly
          rw [eq_of_ends lower upper, List.take_of_length_le (by omega)]
      | false =>
          rw [if_neg (by simp [unlimited, lastOnly])] at upper
          have selected := Page.select_of_upper lastOnly lower upper numbered
          rw [Nat.sub_add_cancel (Nat.pos_of_ne_zero unlimited)] at selected
          exact selected

end PageRange

end PageSketch
