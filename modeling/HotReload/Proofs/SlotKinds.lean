import HotReload.Proofs.Dispatch
import HotReload.Proofs.Recorded

/-! # Kinds of the code in slots

A slot of an older version is written when the code that the new version holds is patchable,
whatever the slot itself leads to. A slot of a specialization is written when the code that it leads
to is patchable, whatever the module exports under the name. Where the kind of a symbol changes from
one version to the next, code that is not patchable is redirected, or redirected to.
-/

namespace HotReload

open Managed (Process)

/-- Why a load leads a slot from `a` to `b`. Each way looks at the kind on one side only. -/
inductive Rewritten (r : Reloader) (w : Process) (after : Loaded ManagedImage) (m : ModuleId)
    (d : ClassId) (old : LinkedClass) (i : Nat) (a b : Address) : Prop where
  /-- A new version holds patchable code there, and `b` is the newest of its name. -/
  | brought {slot wanted t} : Continues after.world.image m old i slot →
    SymbolCache.search after.world.image slot.address none = some wanted →
    wanted.kind.patchable r.settings.preserveStatics = true →
    SymbolCache.search after.world.image b none = some t → t.name = wanted.name →
    t.kind.patchable r.settings.preserveStatics = true →
    Rewritten r w after m d old i a b
  /-- The slot of a specialization leads to patchable code, and `b` is the newest of its name or,
  patchable or not, what the module exports under the name. -/
  | refreshed {s t} : IsSpecialization after.world.image (r.rules w) m d →
    SymbolCache.search after.world.image a none = some s →
    s.kind.patchable r.settings.preserveStatics = true →
    SymbolCache.search after.world.image b none = some t → t.name = s.name →
    t.kind.patchable r.settings.preserveStatics = true ∨
      CodeImage.address? after.world.image m s.name = some b →
    Rewritten r w after m d old i a b

section Load

variable {r : Reloader} {w : Process} {loop : MainLoop} {path : Path} {report : LoadReport}

namespace Reloader.Landed

variable {after : Loaded ManagedImage} {m : ModuleId} {before : ManagedImage}
  {spec : ModuleSpec Body} {done : Interposition.Absorbed ManagedImage}

/-- What the table of a reloader that loads every module holds is patchable code of the name. -/
theorem search_table (h : Landed r w after m before spec done) (hup : UpToDate r w) {name : String}
    {b : Address} (hb : after.reloader.table.address? name = some b) :
    ∃ t, SymbolCache.search after.world.image b none = some t ∧ t.name = name ∧
      t.kind.patchable r.settings.preserveStatics = true := by
  obtain ⟨t, ht, hname, hp⟩ :=
    (h.isNewest hup).exists_symbol? (h.valid hup.valid).2.linked hb
  exact ⟨t, h.search_eq hup.reliable ht none, hname, hp⟩

/-- What the module exports under a name is code of the name, of any kind. -/
theorem search_own (h : Landed r w after m before spec done) (hr : Reliable r w) {name : String}
    {b : Address} (hb : CodeImage.address? after.world.image m name = some b) :
    ∃ t, SymbolCache.search after.world.image b none = some t ∧ t.name = name := by
  rw [h.address?] at hb
  obtain ⟨t, _, ht, hname, _⟩ := (h.valid hr.valid).2.linked.symbol?_of_address?
    r.settings.preserveStatics (ManagedImage.mem_modules (before.module?_nextModule spec)) hb
  exact ⟨t, h.search_eq hr ht none, hname⟩

theorem rewritten (h : Landed r w after m before spec done) (hup : UpToDate r w) {d : ClassId}
    {old : LinkedClass} {i : Nat} {a b : Address} (hd : Dispatched r w after m d old i a b)
    (hne : b ≠ a) : Rewritten r w after m d old i a b := by
  cases hd with
  | kept => exact absurd rfl hne
  | brought hcontinues hs hp hb =>
    rcases hb with rfl | htable
    · exact .brought hcontinues hs hp hs rfl hp
    · obtain ⟨t, ht, hname, htp⟩ := h.search_table hup htable
      exact .brought hcontinues hs hp ht hname htp
  | refreshed hspecial hs hp hb =>
    rcases Option.or_eq_some_iff.1 hb with hown | ⟨_, htable⟩
    · obtain ⟨t, ht, hname⟩ := h.search_own hup.reliable hown
      exact .refreshed hspecial hs hp ht hname (.inr hown)
    · obtain ⟨t, ht, hname, htp⟩ := h.search_table hup htable
      exact .refreshed hspecial hs hp ht hname (.inl htp)

end Reloader.Landed

/-- Where a load changes a slot, the kind was looked at on one side: that of the new version in an
older one, that of the slot itself in a specialization. The other side is not looked at, so the slot
is written wherever the one side is patchable. -/
theorem Hosted.slotAt?_load_kinds (h : Hosted r w) (hr : (r.load loop w path).result = .ok report)
    {d : ClassId} {old : LinkedClass} (hold : w.image.class? d = some old) {i : Nat} {a : Address}
    (ha : w.image.slotAt? d i = some a) :
    let after := r.load loop w path
    let found (w : Process) (a : Address) := SymbolCache.search w.image a none
    let patchable (s : Symbol) := s.kind.patchable r.settings.preserveStatics = true
    ∃ b, after.world.image.slotAt? d i = some b ∧
      (b ≠ a → Rewritten r w after report.module d old i a b) ∧
      (∀ c new slot wanted, Succeeds w.image after.world.image report.module c d new old → i ≠ 0 →
        new.slots[i]? = some slot → found after.world slot.address = some wanted →
        patchable wanted → after.reloader.table.address? wanted.name = some b) ∧
      (∀ g s, w.image.hasHook = true → r.settings.patchGenerics = true →
        Renewed r w after.world.image report.module g d → i ≠ 0 → found w a = some s →
        patchable s → ((CodeImage.address? after.world.image report.module s.name).or
          (after.reloader.table.address? s.name)).getD a = b) := by
  have hup := UpToDate.of_hosted h
  have hreliable := hup.reliable
  obtain ⟨before, spec, done, hlanded⟩ := Reloader.exists_landed hr
  have hlinked := hlanded.class?_linked hold
  have hslot : (before.link spec).2.slotAt? d i = some a := by
    rw [ManagedImage.slotAt?_eq hlinked, ← ManagedImage.slotAt?_eq hold, ha]
  obtain ⟨b, hb, hleads⟩ := hlanded.led hreliable d i a hslot
  rw [← hlanded.slotAt? hlinked] at hb
  intro after found patchable
  refine ⟨b, hb, hlanded.rewritten hup (hlanded.dispatched hreliable hlinked hleads), ?_, ?_⟩
  · intro c new slot wanted hc hi hslot hwanted hp
    have hthere : after.world.image.slotAt? c i = some slot.address := by
      simp [ManagedImage.slotAt?_eq hc.isNew, hslot]
    obtain ⟨name, hname⟩ := hc.exists_bindName hlanded hreliable.valid hthere
    obtain ⟨hsymbol, hbound⟩ := hlanded.bound_of_search hreliable hname hwanted
    have hnewest := hc.slotAt? hlanded hreliable h.shared.isStarted.registered hi hthere hsymbol
      hbound hp
    rw [Option.some.inj (hb.symm.trans hnewest)]
    exact (hlanded.newest_of_bound hup hsymbol hbound hp).1
  · intro g s hhook hgenerics hd hi hs hp
    have hrefreshed := hd.slotAt? hlanded hreliable (h.isInstalled hhook hgenerics) i
    rw [ha, hb, Option.map_some, Option.some.injEq] at hrefreshed
    have hs' : w.image.symbol? a = some s := by rw [← hup.valid.linked.search_eq a none, ← hs]
    have hp' : s.kind.patchable r.settings.preserveStatics = true := hp
    rw [hrefreshed, hlanded.address?_or]
    simp [SlotPolicy.inPlace, hi, SlotPolicy.refreshed?, hlanded.symbol?_linked hs', Option.filter,
      hp', ManagedImage.address?_nextModule]

end Load

namespace Rewritten

def version (c : ClassSpec) (function : String) (kind : SymbolKind) : ModuleSpec Body :=
  { name := c.name, functions := [⟨function, kind, .constant .unit⟩], classes := [c] }

def loaded (c : ClassSpec) (function : String) (kind : SymbolKind) : Loaded ManagedImage :=
  (fresh false).1.loadSpec (fresh false).2 (version c function kind)

def reloaded (c : ClassSpec) (function : String) (first second : SymbolKind) :
    Loaded ManagedImage :=
  (loaded c function first).reloader.loadSpec (loaded c function first).world
    (version c function second)

def shape : ClassSpec := { name := "Shape", slots := [("area", "Shape.area")] }

theorem hosted_shape (kind : SymbolKind) : Hosted (loaded shape "Shape.area" kind).reloader
    (loaded shape "Shape.area" kind).world :=
  (fresh_hosted false).loadSpec _ (by cases kind <;> decide)

theorem slotAt?_load_kinds_method : ∃ report,
    (reloaded shape "Shape.area" .method .method).result = .ok report ∧ ∃ old b,
      (loaded shape "Shape.area" .method).world.image.class? ⟨0⟩ = some old ∧
      (reloaded shape "Shape.area" .method .method).world.image.slotAt? ⟨0⟩ 1 = some b ∧
      b ≠ ⟨0x1000⟩ ∧
      Rewritten (loaded shape "Shape.area" .method).reloader
        (staged (loaded shape "Shape.area" .method).world (version shape "Shape.area" .method))
        (reloaded shape "Shape.area" .method .method) report.module ⟨0⟩ old 1 ⟨0x1000⟩ b ∧
      (reloaded shape "Shape.area" .method .method).reloader.table.address? "Shape.area" =
        some b := by
  obtain ⟨report, hresult, hmodule⟩ : ∃ report,
      (reloaded shape "Shape.area" .method .method).result = .ok report ∧
        report.module = ⟨2⟩ := ⟨_, rfl, rfl⟩
  obtain ⟨old, hold⟩ : ∃ old,
      (loaded shape "Shape.area" .method).world.image.class? ⟨0⟩ = some old := ⟨_, rfl⟩
  obtain ⟨b, hb, hrewritten, hbrought, _⟩ := Hosted.slotAt?_load_kinds
    ((hosted_shape .method).staged (version shape "Shape.area" .method)) hresult hold (i := 1)
    (a := ⟨0x1000⟩) (by decide)
  have hafter : (reloaded shape "Shape.area" .method .method).world.image.slotAt? ⟨0⟩ 1 =
      some ⟨0x1020⟩ := by decide
  obtain rfl := Option.some.inj (hb.symm.trans hafter)
  have hclasses : CodeImage.classesIn (reloaded shape "Shape.area" .method .method).world.image
      report.module = [⟨1⟩] := by
    rw [hmodule]
    decide
  obtain rfl := Option.some.inj (hold.symm.trans rfl)
  have htable := hbrought ⟨1⟩ _ ⟨"area", ⟨0x1020⟩⟩ ⟨"Shape.area", ⟨0x1020⟩, ⟨2⟩, .method⟩
    (.of_single hclasses rfl (by decide) rfl (by decide) (by decide) (by decide)) (by decide) rfl
    (by decide) (by decide)
  exact ⟨report, hresult, _, _, hold, hb, by decide, hrewritten (by decide), htable⟩

/-- The getter of a foreign type, which is not to be redirected, gives way to a method. -/
theorem not_slotAt?_load_patchable :
    ¬∀ (r : Reloader) (w : Process) (loop : MainLoop) (path : Path) (report : LoadReport)
      (d : ClassId) (i : Nat) (a b : Address) (s t : Symbol), Hosted r w →
      (r.load loop w path).result = .ok report → w.image.slotAt? d i = some a →
      (r.load loop w path).world.image.slotAt? d i = some b → b ≠ a →
      SymbolCache.search (r.load loop w path).world.image a none = some s →
      SymbolCache.search (r.load loop w path).world.image b none = some t →
      s.kind.patchable r.settings.preserveStatics = true ∧
        t.kind.patchable r.settings.preserveStatics = true := by
  intro h
  obtain ⟨report, hresult⟩ : ∃ report,
      (reloaded shape "Shape.area" .opaqueGetter .method).result = .ok report := ⟨_, rfl⟩
  have hboth := h _ _ loop stagePath report ⟨0⟩ 1 ⟨0x1000⟩ ⟨0x1020⟩
    ⟨"Shape.area", ⟨0x1000⟩, ⟨1⟩, .opaqueGetter⟩ ⟨"Shape.area", ⟨0x1020⟩, ⟨2⟩, .method⟩
    ((hosted_shape .opaqueGetter).staged (version shape "Shape.area" .method)) hresult
    (by decide) (by decide) (by decide) (by decide) (by decide)
  cases hboth.1

end Rewritten

end HotReload
