import HotReload.Proofs.Copying
import HotReload.Proofs.Dispatch
import HotReload.Proofs.Tallying
import Mathlib.Data.List.Nodup

/-! # What a swizzle replaces

After a swizzle the old version answers a selector like the new one, wherever the new version has
one entry of the selector. The swizzle counts what it did: the offers that the old version has no
selector for, and, where no selector is offered twice, the entries that changed.
-/

namespace HotReload

open Managed (Process messageTarget classTarget classOf)
open ManagedImage (Confined)

section Tables

variable {table : Selectors} {selector : String}

theorem lookup_isSome_iff_mem : (table.lookup selector).isSome ↔ selector ∈ table.map (·.1) := by
  induction table with
  | nil => simp
  | cons e es ih =>
    rw [List.lookup_cons]
    by_cases he : selector = e.1
    · simp [he]
    · rw [beq_false_of_ne he]
      simp [he, ih]

/-- A selector that occurs once has one entry, which is the one that is looked up. -/
theorem lookup_eq_of_count_eq_one (h : (table.map (·.1)).count selector = 1)
    {e : String × Address} (he : e ∈ table) (hselector : e.1 = selector) :
    table.lookup selector = some e.2 := by
  subst hselector
  induction table with
  | nil => cases he
  | cons d es ih =>
    rw [List.map_cons, List.count_cons] at h
    rw [List.lookup_cons]
    by_cases hd : e.1 = d.1
    · rcases List.mem_cons.1 he with rfl | hes
      · simp
      · have hpos : 0 < (es.map (·.1)).count e.1 := List.count_pos_iff.2 (List.mem_map_of_mem hes)
        rw [hd, beq_self_eq_true, if_pos rfl, ← hd] at h
        omega
    · rw [beq_false_of_ne hd]
      refine ih ((List.mem_cons.1 he).resolve_left fun h => hd (congrArg Prod.fst h)) ?_
      simpa [Ne.symm hd] using h

end Tables

/-- Messages of the selector lead to the address: those to an instance of the class, or those to the
class. -/
def ManagedImage.Reaches (image : ManagedImage) (c : ClassId) :
    SelectorTable → String → Address → Prop
  | .onInstances, selector, a => ∀ (w : Process) (o : ObjectId) (k : LinkedClass),
      w.image = image → classOf w o = .ok (c, k) → messageTarget w o selector = .ok a
  | .onClass, selector, a => classTarget image c selector = .ok a

theorem ManagedImage.reaches_of_lookup {image : ManagedImage} {c : ClassId} {k : LinkedClass}
    (hk : image.class? c = some k) {t : SelectorTable} {selector : String} {a : Address}
    (h : (k.table t).lookup selector = some a) : image.Reaches c t selector a := by
  cases t with
  | onInstances =>
    rintro w o k' rfl hc
    obtain ⟨_, _, _, hk'⟩ := Managed.classOf_ok.1 hc
    obtain rfl := Option.some.inj (hk.symm.trans hk')
    have hs : k.selector? .onInstances selector = some a := h
    simp [messageTarget, hc, hs, bind, Except.bind]
  | onClass =>
    have hs : k.selector? .onClass selector = some a := h
    simp [Reaches, classTarget, ManagedImage.classOrFail, hk, hs, bind, Except.bind]

theorem ManagedImage.entryAt?_eq {image : ManagedImage} {c : ClassId} {k : LinkedClass}
    (hk : image.class? c = some k) (t : SelectorTable) (j : Nat) :
    image.entryAt? c t j = (k.table t)[j]? := by
  simp [entryAt?, hk]

namespace SwizzleOutcome

theorem merge_assoc (a b c : SwizzleOutcome) : (a.merge b).merge c = a.merge (b.merge c) := by
  simp [merge, Nat.add_assoc]

def tally (before offers : Selectors) : SwizzleOutcome where
  replaced := offers.countP fun e => (before.lookup e.1).any (· != e.2)
  missing := offers.countP fun e => (before.lookup e.1).isNone

theorem tally_cons (before : Selectors) (e : String × Address) (offers : Selectors) :
    tally before (e :: offers) = (tally before [e]).merge (tally before offers) := by
  simp [tally, merge, List.countP_cons, Nat.add_comm]

end SwizzleOutcome

namespace Swizzle

open SwizzleOutcome (tally)

variable {image : ManagedImage} {old new : ClassId} {k l : LinkedClass} {t : SelectorTable}
  {before : Selectors}

theorem copyEntry_outcome (acc : SwizzleOutcome × ManagedImage) (offer : String × Address)
    (hbefore : ∀ selector, (before.lookup selector).isSome →
      (acc.2.entryIndex? old t selector).isSome) :
    (copyEntry old t before acc offer).1 = acc.1.merge (tally before [offer]) := by
  simp only [copyEntry]
  cases hlookup : before.lookup offer.1 with
  | none => simp [tally, hlookup, SwizzleOutcome.merge]
  | some current =>
    by_cases hsame : current = offer.2
    · simp [hsame, tally, hlookup, SwizzleOutcome.merge]
    · obtain ⟨i, hi⟩ := Option.isSome_iff_exists.1 (hbefore offer.1 (by simp [hlookup]))
      obtain ⟨after, hafter⟩ := ManagedImage.replaceSelector_isOk hi offer.2
      have hreplaced : CodeImage.replaceSelector acc.2 old t offer.1 offer.2 = .ok after := hafter
      simp [hsame, hreplaced, tally, hlookup, SwizzleOutcome.merge]

/-- What copying offers one after another counts. -/
theorem copyEach_outcome (offers : Selectors) (acc : SwizzleOutcome × ManagedImage)
    (hbefore : ∀ selector, (before.lookup selector).isSome →
      (acc.2.entryIndex? old t selector).isSome) :
    (offers.foldl (copyEntry old t before) acc).1 = acc.1.merge (tally before offers) := by
  induction offers generalizing acc with
  | nil => simp [tally, SwizzleOutcome.merge]
  | cons offer offers ih =>
    have hconfined : Confined (· = old) acc.2 (copyEntry old t before acc offer).2 :=
      (confined_kept old).copyEntry t before acc offer
    have hindex := hconfined.entryIndex? old t
    rw [List.foldl_cons, ih _ fun selector h => by rw [hindex]; exact hbefore selector h,
      copyEntry_outcome acc offer hbefore, SwizzleOutcome.merge_assoc, ← SwizzleOutcome.tally_cons]

theorem copyTable_outcome (acc : SwizzleOutcome × ManagedImage) (hk : acc.2.class? old = some k)
    (hl : acc.2.class? new = some l) (accepts : String → Bool) :
    (copyTable old new accepts acc t).1 =
      acc.1.merge (tally (k.table t) ((l.table t).filter fun e => accepts e.1)) := by
  simp only [copyTable, ManagedImage.selectors_of_class? hk, ManagedImage.selectors_of_class? hl]
  exact copyEach_outcome _ acc fun _ => ManagedImage.entryIndex?_isSome_of_lookup hk

/-- Copying one table leaves the others alone. -/
theorem table_copyTable (acc : SwizzleOutcome × ManagedImage) (hk : acc.2.class? old = some k)
    (new : ClassId) (accepts : String → Bool) {t' : SelectorTable} (ht : t' ≠ t) :
    ∃ k', (copyTable old new accepts acc t).2.class? old = some k' ∧ k'.table t' = k.table t' := by
  have hconfined := (confined_kept old).copyTable new accepts acc t
  obtain ⟨k', hk', _⟩ := hconfined.exists_blank hk
  refine ⟨k', hk', List.ext_getElem? fun j => ?_⟩
  rw [← ManagedImage.entryAt?_eq hk', entryAt?_copyTable, if_neg ht, ManagedImage.entryAt?_eq hk]

/-- A swizzle counts what it makes of the two tables. -/
theorem swizzle_outcome (hne : new ≠ old) (hk : image.class? old = some k)
    (hl : image.class? new = some l) (accepts : String → Bool) :
    (swizzle image old new accepts).1 =
      (tally (k.table .onInstances) ((l.table .onInstances).filter fun e => accepts e.1)).merge
        (tally (k.table .onClass) ((l.table .onClass).filter fun e => accepts e.1)) := by
  have hconfined := (confined_kept old).copyTable new accepts ({}, image) .onInstances
  obtain ⟨k', hk', htable⟩ := table_copyTable ({}, image) hk new accepts
    (by decide : SelectorTable.onClass ≠ .onInstances)
  rw [swizzle, List.foldl_cons, List.foldl_cons, List.foldl_nil,
    copyTable_outcome _ hk' ((hconfined.outside new hne).trans hl), htable,
    copyTable_outcome _ hk hl]
  simp [SwizzleOutcome.merge]

section Changes

variable {offers : Selectors} {selector : String} {a : Address}

theorem getD_latest?_ne_iff : (latest? a offers selector).getD a ≠ a ↔
    ∃ e ∈ offers, e.1 = selector ∧ e.2 ≠ a := by
  cases h : (offers.filter fun e => e.1 == selector && e.2 != a).getLast? with
  | none =>
    have hnone := List.filter_eq_nil_iff.1 (List.getLast?_eq_none_iff.1 h)
    simp only [latest?, h, Option.map_none, Option.getD_none, ne_eq, not_true_eq_false, false_iff]
    rintro ⟨e, he, hselector, hne⟩
    exact hnone e he (by simp [hselector, hne])
  | some e =>
    have hmem := List.mem_filter.1 (List.mem_of_getLast? h)
    simp only [Bool.and_eq_true, beq_iff_eq, bne_iff_ne] at hmem
    simp only [latest?, h, Option.map_some, Option.getD_some]
    exact ⟨fun _ => ⟨e, hmem⟩, fun _ => hmem.2.2⟩

/-- An offer that is the only one of its selector is what the entry gets. -/
theorem getD_latest?_of_unique {e : String × Address} (he : e ∈ offers)
    (hunique : ∀ d ∈ offers, d.1 = e.1 → d.2 = e.2) : (latest? a offers e.1).getD a = e.2 := by
  cases h : (offers.filter fun d => d.1 == e.1 && d.2 != a).getLast? with
  | none =>
    have hnone := List.filter_eq_nil_iff.1 (List.getLast?_eq_none_iff.1 h) e he
    simp only [latest?, h, Option.map_none, Option.getD_none]
    by_contra hne
    exact hnone (by simp [Ne.symm hne])
  | some d =>
    have hmem := List.mem_filter.1 (List.mem_of_getLast? h)
    simp only [Bool.and_eq_true, beq_iff_eq, bne_iff_ne] at hmem
    simp only [latest?, h, Option.map_some, Option.getD_some]
    exact hunique d hmem.1 hmem.2.1

/-- The offers that differ from what a table has under their selectors. -/
def swapped (before offers : Selectors) : Selectors :=
  offers.filter fun e => (before.lookup e.1).any (· != e.2)

theorem mem_swapped (hk : image.class? old = some k) {e : String × Address} :
    e ∈ swapped (k.table t) offers ↔ e ∈ offers ∧ ∃ j a,
      image.entryIndex? old t e.1 = some j ∧ image.entryAt? old t j = some (e.1, a) ∧ e.2 ≠ a := by
  rw [swapped, List.mem_filter, Option.any_eq_true, ManagedImage.lookup_table hk]
  refine and_congr_right fun _ => ?_
  constructor
  · rintro ⟨a, ha, hne⟩
    obtain ⟨j, hj, ha⟩ := Option.bind_eq_some_iff.1 ha
    obtain ⟨b, hb⟩ := ManagedImage.exists_entryAt? hj
    rw [hb] at ha
    obtain rfl := Option.some.inj ha
    exact ⟨j, b, hj, hb, (bne_iff_ne.1 hne).symm⟩
  · rintro ⟨j, a, hj, ha, hne⟩
    exact ⟨a, by rw [hj, Option.bind_some, ha]; rfl, bne_iff_ne.2 hne.symm⟩

/-- An entry changes where an offer differs from it. -/
theorem received_ne_iff {j : Nat} {e : String × Address} {accepts : String → Bool} :
    received image old new accepts t j e ≠ e ↔ image.entryIndex? old t e.1 = some j ∧
      ∃ d ∈ image.offers new t accepts, d.1 = e.1 ∧ d.2 ≠ e.2 := by
  rw [received, ← getD_latest?_ne_iff]
  by_cases hj : image.entryIndex? old t e.1 = some j
  · simp [hj, Prod.ext_iff]
  · simp [hj]

/-- Where no selector is offered twice, as many offers are copied as entries change. -/
theorem length_swapped (hk : image.class? old = some k) {accepts : String → Bool}
    (hnodup : ((image.offers new t accepts).map (·.1)).Nodup) :
    (swapped (k.table t) (image.offers new t accepts)).length =
      (changedPositions (k.table t).length (image.entryAt? old t)
        fun j => (image.entryAt? old t j).map (received image old new accepts t j)).length := by
  have hinj : ∀ d ∈ swapped (k.table t) (image.offers new t accepts),
      ∀ e ∈ swapped (k.table t) (image.offers new t accepts),
        (image.entryIndex? old t d.1).getD 0 = (image.entryIndex? old t e.1).getD 0 → d = e := by
    intro d hd e he heq
    obtain ⟨hd, i, a, hi, ha, _⟩ := (mem_swapped hk).1 hd
    obtain ⟨he, j, b, hj, hb, _⟩ := (mem_swapped hk).1 he
    obtain rfl : i = j := by simpa [hi, hj] using heq
    obtain ⟨hselector, _⟩ := Prod.mk.inj (Option.some.inj (ha.symm.trans hb))
    exact List.inj_on_of_nodup_map hnodup hd he hselector
  rw [← List.length_map fun e : String × Address => (image.entryIndex? old t e.1).getD 0]
  refine List.Perm.length_eq ((List.perm_ext_iff_of_nodup ?_ ?_).2 fun j => ?_)
  · exact List.Nodup.map_on hinj (List.Nodup.filter _ (List.Nodup.of_map _ hnodup))
  · exact List.nodup_range.filter _
  · simp only [List.mem_map, mem_swapped hk, changedPositions, List.mem_filter, List.mem_range,
      decide_eq_true_eq]
    constructor
    · rintro ⟨e, ⟨he, i, a, hi, ha, hne⟩, hj⟩
      obtain rfl : i = j := by simpa [hi] using hj
      refine ⟨?_, ?_⟩
      · rw [ManagedImage.entryAt?_eq hk] at ha
        exact (List.getElem?_eq_some_iff.1 ha).1
      · rw [ha, Option.map_some, ne_eq, Option.some.injEq]
        exact received_ne_iff.2 ⟨hi, e, he, rfl, hne⟩
    · rintro ⟨hlt, hne⟩
      have hentry : image.entryAt? old t j = some (k.table t)[j] := by
        rw [ManagedImage.entryAt?_eq hk, List.getElem?_eq_getElem hlt]
      rw [hentry, Option.map_some, ne_eq, Option.some.injEq] at hne
      obtain ⟨hj, e, he, hselector, hne⟩ := received_ne_iff.1 hne
      refine ⟨e, ⟨he, j, (k.table t)[j].2, ?_, ?_, hne⟩, ?_⟩
      · rw [hselector, hj]
      · rw [hentry, hselector]
      · rw [hselector, hj, Option.getD_some]

theorem swapped_eq_nil_iff {before : Selectors} : swapped before offers = [] ↔
    ∀ e ∈ offers, ∀ a, before.lookup e.1 = some a → a = e.2 := by
  rw [swapped, List.filter_eq_nil_iff]
  refine forall₂_congr fun e _ => ?_
  cases before.lookup e.1 <;> simp

end Changes

section Again

variable {accepts : String → Bool}

/-- Offers that the table holds already change nothing. -/
theorem copyEach_of_swapped {offers : Selectors} (h : swapped before offers = [])
    (acc : SwizzleOutcome × ManagedImage) :
    (offers.foldl (copyEntry old t before) acc).2 = acc.2 := by
  rw [swapped_eq_nil_iff] at h
  induction offers generalizing acc with
  | nil => rfl
  | cons e offers ih =>
    obtain ⟨he, hrest⟩ := List.forall_mem_cons.1 h
    rw [List.foldl_cons, ih hrest]
    cases ha : before.lookup e.1 with
    | none => simp [copyEntry, ha]
    | some a => simp [copyEntry, ha, he a ha]

theorem copyTable_of_swapped (acc : SwizzleOutcome × ManagedImage)
    (hk : acc.2.class? old = some k) (hl : acc.2.class? new = some l)
    (h : swapped (k.table t) ((l.table t).filter fun e => accepts e.1) = []) :
    (copyTable old new accepts acc t).2 = acc.2 := by
  simp only [copyTable, ManagedImage.selectors_of_class? hk, ManagedImage.selectors_of_class? hl]
  exact copyEach_of_swapped h acc

theorem swizzle_of_swapped (hk : image.class? old = some k) (hl : image.class? new = some l)
    (h : ∀ t, swapped (k.table t) ((l.table t).filter fun e => accepts e.1) = []) :
    (swizzle image old new accepts).2 = image := by
  have hfirst := copyTable_of_swapped ({}, image) hk hl (h .onInstances)
  rw [swizzle, List.foldl_cons, List.foldl_cons, List.foldl_nil,
    copyTable_of_swapped _ (hfirst ▸ hk) (hfirst ▸ hl) (h .onClass), hfirst]

/-- What the old version has, after a swizzle, under a selector that the new version has once. -/
theorem lookup_swizzle (hne : new ≠ old) (hk : image.class? old = some k)
    (hl : image.class? new = some l) {k' : LinkedClass}
    (hk' : (swizzle image old new accepts).2.class? old = some k') {e : String × Address}
    (he : e ∈ l.table t) (honce : ((l.table t).map (·.1)).count e.1 = 1)
    (haccepts : accepts e.1 = true) (hold : e.1 ∈ (k.table t).map (·.1)) :
    (k'.table t).lookup e.1 = some e.2 := by
  obtain ⟨j, hj⟩ := Option.isSome_iff_exists.1
    (ManagedImage.entryIndex?_isSome_of_lookup hk (lookup_isSome_iff_mem.2 hold))
  obtain ⟨a, ha⟩ := ManagedImage.exists_entryAt? hj
  have hoffered : e ∈ image.offers new t accepts := by
    rw [ManagedImage.offers_eq hl]
    exact List.mem_filter.2 ⟨he, haccepts⟩
  have hunique : ∀ d ∈ image.offers new t accepts, d.1 = e.1 → d.2 = e.2 := by
    intro d hd hselector
    rw [ManagedImage.offers_eq hl] at hd
    have hlookup := lookup_eq_of_count_eq_one honce (List.mem_filter.1 hd).1 hselector
    exact Option.some.inj (hlookup.symm.trans (lookup_eq_of_count_eq_one honce he rfl))
  rw [ManagedImage.lookup_table hk', (swizzle_confined image old new accepts).entryIndex?, hj,
    Option.bind_some, entryAt?_swizzle hne, ha]
  simp [received, hj, getD_latest?_of_unique hoffered hunique]

end Again

end Swizzle

/-- The accepted entries of the new version under selectors that the old one lacks. -/
def LinkedClass.unmatched (k l : LinkedClass) (accepts : String → Bool) (t : SelectorTable) :
    Selectors :=
  (l.table t).filter fun e => accepts e.1 && decide (e.1 ∉ (k.table t).map (·.1))

namespace Swizzle

open SwizzleOutcome (tally)

/-- The old version answers like the new one, of which nothing else was copied, and all that was
done is counted. -/
structure Answers (image : ManagedImage) (old new : ClassId) (k l : LinkedClass)
    (accepts : String → Bool) (result : SwizzleOutcome × ManagedImage) : Prop where
  reaches : ∀ t selector, accepts selector = true → ((l.table t).map (·.1)).count selector = 1 →
    selector ∈ (k.table t).map (·.1) →
      ∃ a, result.2.Reaches old t selector a ∧ result.2.Reaches new t selector a
  kept : ∀ t j e, image.entryAt? old t j = some e →
    accepts e.1 = false ∨ e.1 ∉ (l.table t).map (·.1) → result.2.entryAt? old t j = some e
  selectors : ∃ k', result.2.class? old = some k' ∧
    ∀ t, (k'.table t).map (·.1) = (k.table t).map (·.1)
  slots : ∀ c i, result.2.slotAt? c i = image.slotAt? c i
  confined : Confined (· = old) image result.2
  missing : result.1.missing =
    (k.unmatched l accepts .onInstances).length + (k.unmatched l accepts .onClass).length
  failed : result.1.failed = 0
  /-- Where the new version has no selector twice, the changes are counted, and there are no more
  the second time. -/
  replaced : (∀ t, ((l.table t).map (·.1)).Nodup) →
    let changed := fun t => changedPositions (k.table t).length (image.entryAt? old t)
      (result.2.entryAt? old t)
    result.1.replaced = (changed .onInstances).length + (changed .onClass).length ∧
      (swizzle result.2 old new accepts).1.replaced = 0 ∧
      (swizzle result.2 old new accepts).2 = result.2

variable {image : ManagedImage} {old new : ClassId} {k l : LinkedClass} {t : SelectorTable}

theorem length_unmatched (k l : LinkedClass) (accepts : String → Bool) (t : SelectorTable) :
    (tally (k.table t) ((l.table t).filter fun e => accepts e.1)).missing =
      (k.unmatched l accepts t).length := by
  rw [LinkedClass.unmatched, ← List.countP_eq_length_filter]
  refine List.countP_filter.trans (List.countP_congr fun e _ => ?_)
  simp only [Bool.and_eq_true, decide_eq_true_eq, ← lookup_isSome_iff_mem]
  cases (k.table t).lookup e.1 <;> simp

/-- Where no selector is offered twice, as many offers are copied as entries change. -/
theorem length_changed (hne : new ≠ old) (hk : image.class? old = some k)
    (hl : image.class? new = some l) (accepts : String → Bool)
    (hnodup : ((l.table t).map (·.1)).Nodup) :
    (tally (k.table t) ((l.table t).filter fun e => accepts e.1)).replaced =
      (changedPositions (k.table t).length (image.entryAt? old t)
        ((swizzle image old new accepts).2.entryAt? old t)).length := by
  have hafter : (swizzle image old new accepts).2.entryAt? old t = fun j =>
      (image.entryAt? old t j).map (received image old new accepts t j) :=
    funext fun j => entryAt?_swizzle hne t j
  have hoffers : ((image.offers new t accepts).map (·.1)).Nodup := by
    rw [ManagedImage.offers_eq hl]
    exact hnodup.sublist (List.filter_sublist.map _)
  rw [hafter, ← length_swapped hk hoffers, ManagedImage.offers_eq hl]
  exact List.countP_eq_length_filter

/-- After a swizzle the new version has nothing more to offer. -/
theorem swapped_swizzle (hne : new ≠ old) (hk : image.class? old = some k)
    (hl : image.class? new = some l) {accepts : String → Bool} {k' : LinkedClass}
    (hk' : (swizzle image old new accepts).2.class? old = some k')
    (hselectors : (k'.table t).map (·.1) = (k.table t).map (·.1))
    (hnodup : ((l.table t).map (·.1)).Nodup) :
    swapped (k'.table t) ((l.table t).filter fun e => accepts e.1) = [] := by
  refine swapped_eq_nil_iff.2 fun e he a ha => ?_
  obtain ⟨he, haccepts⟩ := List.mem_filter.1 he
  have hold : e.1 ∈ (k.table t).map (·.1) := by
    rw [← hselectors, ← lookup_isSome_iff_mem, ha]
    rfl
  have honce := List.count_eq_one_of_mem hnodup (List.mem_map_of_mem he)
  exact Option.some.inj (ha.symm.trans (lookup_swizzle hne hk hl hk' he honce haccepts hold))

/-- Two versions of a class, whatever their tables hold and whatever is accepted. -/
theorem swizzle_answers (image : ManagedImage) (accepts : String → Bool) (hne : new ≠ old)
    (hk : image.class? old = some k) (hl : image.class? new = some l) :
    Answers image old new k l accepts (swizzle image old new accepts) := by
  have hconfined := swizzle_confined image old new accepts
  obtain ⟨k', hk', hblank⟩ := hconfined.exists_blank hk
  have hl' := (hconfined.outside new hne).trans hl
  have hselectors (t : SelectorTable) : (k'.table t).map (·.1) = (k.table t).map (·.1) := by
    rw [← LinkedClass.table_blank, hblank, LinkedClass.table_blank]
  have hcounts := swizzle_outcome hne hk hl accepts
  refine ⟨?_, ?_, ⟨k', hk', hselectors⟩, slotAt?_swizzle image old new accepts, hconfined, ?_, ?_,
    fun hnodup => ?_⟩
  · intro t selector haccepts honce hold
    obtain ⟨e, he, rfl⟩ := List.mem_map.1 (List.count_pos_iff.1 (honce ▸ Nat.one_pos))
    have hreached := lookup_swizzle hne hk hl hk' he honce haccepts hold
    exact ⟨e.2, ManagedImage.reaches_of_lookup hk' hreached,
      ManagedImage.reaches_of_lookup hl' (lookup_eq_of_count_eq_one honce he rfl)⟩
  · intro t j e he hrefused
    rw [entryAt?_swizzle hne, he, Option.map_some, Option.some.injEq]
    by_contra hchanged
    obtain ⟨_, d, hd, hselector, _⟩ := received_ne_iff.1 hchanged
    rw [ManagedImage.offers_eq hl, List.mem_filter, hselector] at hd
    rcases hrefused with hrejected | habsent
    · exact Bool.false_ne_true (hrejected.symm.trans hd.2)
    · exact habsent (hselector ▸ List.mem_map_of_mem hd.1)
  · rw [hcounts, SwizzleOutcome.merge, length_unmatched, length_unmatched]
  · rw [hcounts]
    rfl
  · have hagain (t : SelectorTable) :=
      swapped_swizzle hne hk hl hk' (hselectors t) (hnodup t)
    refine ⟨?_, ?_, swizzle_of_swapped hk' hl' hagain⟩
    · rw [hcounts, SwizzleOutcome.merge, length_changed hne hk hl accepts (hnodup _),
        length_changed hne hk hl accepts (hnodup _)]
    · have hnone (t : SelectorTable) :
          (tally (k'.table t) ((l.table t).filter fun e => accepts e.1)).replaced = 0 := by
        refine List.countP_eq_length_filter.trans ?_
        exact congrArg List.length (hagain t)
      rw [swizzle_outcome hne hk' hl' accepts, SwizzleOutcome.merge, hnone, hnone]

def loadedDrawing (w : Process) (selectors : List (String × String)) : Process :=
  (Managed.Command.load (oneClass
    { name := "Shape", selectors, classSelectors := [("make", "Shape.make")] }
    [("Shape.draw", 1), ("Shape.area", 2), ("Shape.make", 3)])).perform w

/-- An earlier version that has a selector twice, and a later one that has one selector more. -/
def twoDrawings : ManagedImage :=
  (loadedDrawing
    (loadedDrawing SymbolCache.unloaded
      [("draw", "Shape.draw"), ("draw", "Shape.area"), ("area", "Shape.area")])
    [("draw", "Shape.draw"), ("area", "Shape.area"), ("name", "Shape.draw")]).image

/-- All selectors but one are copied: the first entry of each, in both tables. -/
theorem swizzle_answers_twoDrawings :
    let result := swizzle twoDrawings ⟨0⟩ ⟨1⟩ fun selector => selector != "area"
    result.1 = ⟨2, 1, 0⟩ ∧
      (∃ a, result.2.Reaches ⟨0⟩ .onInstances "draw" a ∧
        result.2.Reaches ⟨1⟩ .onInstances "draw" a) ∧
      result.2.entryAt? ⟨0⟩ .onInstances 2 = some ("area", ⟨0x1010⟩) ∧
      (swizzle result.2 ⟨0⟩ ⟨1⟩ fun selector => selector != "area").1.replaced = 0 := by
  have h := swizzle_answers twoDrawings (fun selector => selector != "area")
    (by decide : (⟨1⟩ : ClassId) ≠ ⟨0⟩)
    (Option.some_get (by decide : (twoDrawings.class? ⟨0⟩).isSome = true)).symm
    (Option.some_get (by decide : (twoDrawings.class? ⟨1⟩).isSome = true)).symm
  exact ⟨by decide, h.reaches .onInstances "draw" (by decide) (by decide) (by decide),
    h.kept .onInstances 2 ("area", ⟨0x1010⟩) (by decide) (.inl (by decide)),
    (h.replaced fun t => by cases t <;> decide).2.1⟩

end Swizzle

end HotReload
