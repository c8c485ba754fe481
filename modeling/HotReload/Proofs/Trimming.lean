import HotReload.Text.Basic
import Mathlib.Data.List.DropRight

/-! # White space around text

Trimming takes the white space off both ends of a text and nothing else.
-/

namespace HotReload.Text

def Blank (cs : List Char) : Prop := ∀ c ∈ cs, isBlank c = true

/-- No white space at either end. -/
structure Trimmed (cs : List Char) : Prop where
  head : ∀ c ∈ cs.head?, isBlank c = false
  last : ∀ c ∈ cs.getLast?, isBlank c = false

theorem Trimmed.of_forall {cs : List Char} (h : ∀ c ∈ cs, isBlank c = false) : Trimmed cs where
  head c hc := h c (List.mem_of_mem_head? hc)
  last c hc := h c (List.mem_of_mem_getLast? hc)

theorem isBlank_of_head?_dropWhile {cs : List Char} {c : Char}
    (h : (cs.dropWhile isBlank).head? = some c) : isBlank c = false := by
  have hstart := List.head?_dropWhile_not isBlank cs
  rwa [h] at hstart

theorem trimmed_trimChars (cs : List Char) : Trimmed (trimChars cs) where
  head c hc := by
    obtain ⟨rest, hrest⟩ := List.head?_eq_some_iff.1 hc
    obtain ⟨trail, htrail⟩ : trimChars cs <+: cs.dropWhile isBlank :=
      List.rdropWhile_prefix isBlank _
    have hfirst : (cs.dropWhile isBlank).head? = some c := by
      rw [← htrail, hrest]
      rfl
    exact isBlank_of_head?_dropWhile hfirst
  last c hc := by
    rw [trimChars, List.getLast?_reverse] at hc
    exact isBlank_of_head?_dropWhile hc

theorem exists_trimChars (cs : List Char) :
    ∃ lead trail, Blank lead ∧ Blank trail ∧ cs = lead ++ trimChars cs ++ trail := by
  refine ⟨cs.takeWhile isBlank, (cs.dropWhile isBlank).rtakeWhile isBlank, ?_, ?_, ?_⟩
  · exact fun c => List.mem_takeWhile_imp
  · exact fun c => List.mem_rtakeWhile_imp
  · change cs = cs.takeWhile isBlank ++ (cs.dropWhile isBlank).rdropWhile isBlank ++
      (cs.dropWhile isBlank).rtakeWhile isBlank
    rw [List.append_assoc, List.rdropWhile_append_rtakeWhile, List.takeWhile_append_dropWhile]

/-- Trimming takes off white space that surrounds what has none at its ends. -/
theorem trimChars_surrounded {lead b trail : List Char} (hb : Trimmed b) (hlead : Blank lead)
    (htrail : Blank trail) : trimChars (lead ++ b ++ trail) = b := by
  change ((lead ++ b ++ trail).dropWhile isBlank).rdropWhile isBlank = b
  rw [List.append_assoc, List.dropWhile_append_of_pos hlead]
  cases b with
  | nil =>
    have hnil : trail.dropWhile isBlank = [] := List.dropWhile_eq_nil_iff.2 htrail
    rw [List.nil_append, hnil, List.rdropWhile_nil]
  | cons c cs =>
    have hc : isBlank c = false := hb.head c rfl
    rw [List.cons_append, List.dropWhile_cons_of_neg (by simp [hc]), ← List.cons_append,
      List.rdropWhile, List.reverse_append, List.dropWhile_append_of_pos fun d hd =>
        htrail d (List.mem_reverse.1 hd)]
    refine List.rdropWhile_eq_self_iff.2 fun hne => ?_
    simp [hb.last _ (List.getLast?_eq_some_getLast hne)]

end HotReload.Text
