import HotReload.Proofs.Agreement
import HotReload.Proofs.Hooks

/-! # Virtual calls across a load

A call finds the slot of its method by name, in the descriptor of the object. A patch brings the
slots of an old descriptor to those of a new one by position. What a method reaches after a load is
what it reached before, or it comes from the slot of the new descriptor at the same position,
whatever the name of that slot.
-/

namespace HotReload

open Managed (Process classOf methodTarget)

section Calls

namespace LinkedClass

def slotIndex? (k : LinkedClass) (name : String) : Option Nat :=
  k.slots.findIdx? (·.name == name)

theorem slot?_eq (k : LinkedClass) (name : String) :
    k.slot? name = (k.slotIndex? name).bind fun i => (k.slots.map (·.address))[i]? := by
  rw [slot?, slotIndex?, List.find?_eq_bind_findIdx?_getElem?]
  cases k.slots.findIdx? (·.name == name) <;> simp

variable {k l : LinkedClass}

theorem slotIndex?_of_blank (h : k.blank = l.blank) (name : String) :
    k.slotIndex? name = l.slotIndex? name := by
  have hblank (k : LinkedClass) : k.blank.slotIndex? name = k.slotIndex? name := by
    simp [slotIndex?, blank, List.findIdx?_map, Function.comp_def]
  rw [← hblank, h, hblank]

end LinkedClass

namespace Managed

variable {w : Process} {o : ObjectId} {d : ClassId} {k : LinkedClass}

theorem classOf_ok : classOf w o = .ok (d, k) ↔
    ∃ i, w.instance? o = some i ∧ i.cls = d ∧ w.image.class? d = some k := by
  have hfound : classOf w o = .ok (d, k) ↔ ((w.instance? o).bind fun i =>
      (w.image.class? i.cls).map fun k => (i.cls, k)) = some (d, k) := by
    rw [classOf]
    split
    · rename_i found he
      rw [he]
      simp
    · rename_i hnone
      rw [hnone]
      simp
  simp only [hfound, Option.bind_eq_some_iff, Option.map_eq_some_iff, Prod.mk.injEq]
  constructor
  · rintro ⟨i, hi, _, hk, rfl, rfl⟩
    exact ⟨i, hi, rfl, hk⟩
  · rintro ⟨i, hi, rfl, hk⟩
    exact ⟨i, hi, k, hk, rfl, rfl⟩

theorem methodTarget_ok {method : String} {a : Address} : methodTarget w o method = .ok a ↔
    ∃ d k i, classOf w o = .ok (d, k) ∧ k.slotIndex? method = some i ∧
      w.image.slotAt? d i = some a := by
  cases hc : classOf w o with
  | error e => simp [methodTarget, hc, bind, Except.bind]
  | ok found =>
    obtain ⟨d, k⟩ := found
    obtain ⟨_, _, _, hk⟩ := classOf_ok.1 hc
    have hslot : methodTarget w o method = .ok a ↔ k.slot? method = some a := by
      simp only [methodTarget, hc, bind, Except.bind]
      cases k.slot? method <;> simp
    rw [hslot, LinkedClass.slot?_eq, Option.bind_eq_some_iff]
    constructor
    · rintro ⟨i, hi, ha⟩
      exact ⟨d, k, i, rfl, hi, by rwa [ManagedImage.slotAt?_eq hk]⟩
    · rintro ⟨_, _, i, he, hi, ha⟩
      obtain ⟨rfl, rfl⟩ := Prod.mk.inj (Except.ok.inj he)
      exact ⟨i, hi, by rwa [← ManagedImage.slotAt?_eq hk]⟩

end Managed

end Calls

section Patch

/-- Where a patch may lead slot `i` of a descriptor when the slot led to `a`. -/
inductive Leads (policy : SlotPolicy) (rules : PatchRules) (base : ManagedImage) (m : ModuleId)
    (d : ClassId) (i : Nat) (a : Address) : Address → Prop where
  | kept : Leads policy rules base m d i a a
  | brought {c k l wanted s} : c ∈ CodeImage.classesIn base m → IsPlain base c →
    IsOlderVersionOf base c d → base.class? d = some k → base.class? c = some l →
    k.slots.length = l.slots.length → i ≠ 0 → base.slotAt? c i = some wanted →
    base.symbol? wanted = some s → s.kind.patchable policy.preserve = true →
    Leads policy rules base m d i a (policy.newest s wanted m)
  | refreshed : IsSpecialization base rules m d →
    Leads policy rules base m d i a (policy.inPlace base m i a)

/-- Refreshing leaves alone what an older version gets from a class of the module. -/
def SlotPolicy.Settles (policy : SlotPolicy) (base : ManagedImage) (m : ModuleId) : Prop :=
  ∀ c ∈ CodeImage.classesIn base m, ∀ i wanted s, base.slotAt? c i = some wanted →
    base.symbol? wanted = some s →
    policy.inPlace base m i (policy.newest s wanted m) = policy.newest s wanted m

def Led (policy : SlotPolicy) (rules : PatchRules) (base : ManagedImage) (m : ModuleId)
    (image : ManagedImage) : Prop :=
  ∀ d i a, base.slotAt? d i = some a →
    ∃ b, image.slotAt? d i = some b ∧ Leads policy rules base m d i a b

variable {policy : SlotPolicy} {rules : PatchRules} {base image : ManagedImage} {m : ModuleId}
  {cache : SymbolCache} {c d : ClassId} {pass : SlotPass ManagedImage}

namespace Led

theorem patch (h : Led policy rules base m image) (hmid : Midway rules base m image cache)
    (hc : c ∈ CodeImage.classesIn base m) (hown : ¬IsSpecialization base rules m c)
    (hplain : IsPlain base c) (hold : IsOlderVersionOf base c d)
    (hp : policy.patch cache image d c m = .ok pass) :
    Led policy rules base m pass.image := by
  intro e i a ha
  obtain ⟨b, hb, hab⟩ := h e i a ha
  by_cases he : e = d
  · subst he
    obtain ⟨k, l, hk, hl, ⟨rfl, _⟩ | ⟨hlayout, hlength, _⟩⟩ := SlotPolicy.patch_cases hp
    · exact ⟨b, hb, hab⟩
    · rw [SlotPolicy.slotAt?_patch hmid.served hk hl hlayout hlength hp]
      -- The new version is one of the module's own, so it still holds what it was linked with.
      have hnew := hmid.class?_of_own hc hown
      have hslots : image.slotAt? c i = base.slotAt? c i := by
        rw [ManagedImage.slotAt?, hnew, ManagedImage.slotAt?]
      by_cases hnone : i = 0 ∨ (image.slotAt? c i).bind (policy.target? base m) = none
      · exact ⟨b, by rw [SlotPolicy.brought_of_none hnone, hb], hab⟩
      obtain ⟨hi, hsome⟩ := not_or.1 hnone
      obtain ⟨b', htarget⟩ := Option.ne_none_iff_exists'.1 hsome
      obtain ⟨wanted, hwanted, ht⟩ := Option.bind_eq_some_iff.1 htarget
      refine ⟨b', SlotPolicy.brought_of_some hi hb hwanted ht, ?_⟩
      obtain ⟨s, hs, hpatchable, rfl⟩ := SlotPolicy.target?_eq_some.1 ht
      obtain ⟨k', hk', _⟩ := Option.bind_eq_some_iff.1 ha
      obtain ⟨k'', hk'', hblank⟩ := hmid.confined.exists_blank hk'
      obtain rfl := Option.some.inj (hk.symm.trans hk'')
      rw [LinkedClass.length_of_blank hblank] at hlength
      rw [hslots] at hwanted
      rw [hnew] at hl
      exact .brought hc hplain hold hk' hl hlength hi hwanted hs hpatchable
  · refine ⟨b, ?_, hab⟩
    rw [(SlotPolicy.patch_confined hp).slotAt? fun hd => he hd.1, hb]

theorem refresh (h : Led policy rules base m image) (hmid : Midway rules base m image cache)
    (hnames : policy.Names base) (hsettles : policy.Settles base m)
    (hspecial : IsSpecialization base rules m d)
    (hp : policy.patchInPlace cache image d m = .ok pass) :
    Led policy rules base m pass.image := by
  intro e i a ha
  obtain ⟨b, hb, hab⟩ := h e i a ha
  by_cases he : e = d
  · subst he
    refine ⟨policy.inPlace base m i b, ?_, ?_⟩
    · rw [SlotPolicy.slotAt?_patchInPlace hmid.served hp, hb]
      rfl
    · cases hab with
      | kept => exact .refreshed hspecial
      | brought hc hplain hold hk hl hlength hi hwanted hs hpatchable =>
        rw [hsettles _ hc i _ _ hwanted hs]
        exact .brought hc hplain hold hk hl hlength hi hwanted hs hpatchable
      | refreshed _ =>
        -- A specialization is visited once for each generic definition of its base.
        have hcomp := congrFun (SlotPolicy.inPlace_comp (m := m) hmid.linked hnames i) a
        rw [Function.comp_apply] at hcomp
        rw [hcomp]
        exact .refreshed hspecial
  · refine ⟨b, ?_, hab⟩
    rw [(SlotPolicy.patchInPlace_confined hp).slotAt? he, hb]

theorem stages (hown : ∀ c ∈ CodeImage.classesIn base m, ¬IsSpecialization base rules m c)
    (hnames : policy.Names base) (hsettles : policy.Settles base m) :
    PatchPass.Kept policy rules base m (Led policy rules base m) where
  patch hmid hc hplain hold hp h := h.patch hmid hc (hown _ hc) hplain hold hp
  refresh hmid hspecial hp h := h.refresh hmid hnames hsettles hspecial hp
  copy _ _ _ h d i a ha := by
    rw [Swizzle.slotAt?_swizzle]
    exact h d i a ha

end Led

end Patch

section Load

/-- The slot in which a class of a module continues a slot of an older version: the one at the same
position. -/
def Continues (image : ManagedImage) (m : ModuleId) (old : LinkedClass) (i : Nat) (slot : Slot) :
    Prop :=
  i ≠ 0 ∧ ∃ c ∈ CodeImage.classesIn image m, IsPlain image c ∧
    ∃ new, image.class? c = some new ∧ new.info.name = old.info.name ∧
      layoutChange? old.info new.info = none ∧ old.slots.length = new.slots.length ∧
      new.slots[i]? = some slot

/-- Where a method of an instance leads after a load, when it led to `a` before. -/
inductive Dispatched (r : Reloader) (w : Process) (after : Loaded ManagedImage) (m : ModuleId)
    (d : ClassId) (old : LinkedClass) (i : Nat) (a : Address) : Address → Prop where
  /-- It was left alone. -/
  | kept : Dispatched r w after m d old i a a
  /-- It was brought to the slot of a new version at its position, or to the newest implementation
  of the symbol there. -/
  | brought {slot s b} : Continues after.world.image m old i slot →
    SymbolCache.search after.world.image slot.address none = some s →
    s.kind.patchable r.settings.preserveStatics = true →
    b = slot.address ∨ after.reloader.table.address? s.name = some b →
    Dispatched r w after m d old i a b
  /-- In a specialization, it was brought to the newest implementation of its own symbol. -/
  | refreshed {s b} : IsSpecialization after.world.image (r.rules w) m d →
    SymbolCache.search after.world.image a none = some s →
    s.kind.patchable r.settings.preserveStatics = true →
    (CodeImage.address? after.world.image m s.name).or (after.reloader.table.address? s.name) =
      some b →
    Dispatched r w after m d old i a b

variable {r : Reloader} {w : Process} {loop : MainLoop} {path : Path} {report : LoadReport}

namespace Reloader.Landed

variable {after : Loaded ManagedImage} {m : ModuleId} {before : ManagedImage}
  {spec : ModuleSpec Body} {done : Interposition.Absorbed ManagedImage}

theorem led (h : Landed r w after m before spec done) (hr : Reliable r w) :
    Led ⟨r.table, r.settings.preserveStatics⟩ (r.rules w) (before.link spec).2 before.nextModule
      (r.patchLinked w before spec).image := by
  have hsettles : SlotPolicy.Settles ⟨r.table, r.settings.preserveStatics⟩ (before.link spec).2
      before.nextModule := by
    intro c hc i wanted s hwanted hs
    rw [ManagedImage.classesIn_nextModule] at hc
    obtain ⟨name, hname⟩ := ManagedImage.slotAt?_link hc hwanted
    have hbound := ManagedImage.bound_bindName (h.valid hr.valid).1 hname hs
    exact hbound.inPlace_newest hs (h.names hr) i
  have hstages := Led.stages (h.not_isSpecialization hr.valid) (h.names hr) hsettles
  exact h.keeps hr hstages fun d i a ha => ⟨a, ha, .kept⟩

theorem mem_classesIn (h : Landed r w after m before spec done) {c : ClassId} :
    c ∈ CodeImage.classesIn after.world.image m ↔
      c ∈ CodeImage.classesIn (before.link spec).2 before.nextModule := by
  rw [h.classesIn, ManagedImage.classesIn_nextModule]

theorem isSpecialization (h : Landed r w after m before spec done) {rules : PatchRules}
    {d : ClassId} (hd : IsSpecialization (before.link spec).2 rules before.nextModule d) :
    IsSpecialization after.world.image rules m d := by
  obtain ⟨htracks, g, hg, info, hinfo, hgeneric⟩ := hd
  exact ⟨htracks, g, h.mem_classesIn.2 hg, info, h.info? hinfo, hgeneric⟩

theorem continues (h : Landed r w after m before spec done) (hw : Managed.Valid w)
    {c d : ClassId} {old new : LinkedClass} {i : Nat} {slot : Slot}
    (hc : c ∈ CodeImage.classesIn (before.link spec).2 before.nextModule)
    (hplain : IsPlain (before.link spec).2 c) (hversion : IsOlderVersionOf (before.link spec).2 c d)
    (hold : (before.link spec).2.class? d = some old)
    (hnew : (before.link spec).2.class? c = some new)
    (hlength : old.slots.length = new.slots.length) (hi : i ≠ 0)
    (hslot : new.slots[i]? = some slot) : Continues after.world.image m old i slot := by
  obtain ⟨⟨k, l, hk, hl, hname, hlayout⟩, _⟩ := IsOlderVersionOf.cases hversion
  obtain rfl := Option.some.inj (hold.symm.trans hk)
  obtain rfl := Option.some.inj (hnew.symm.trans hl)
  obtain ⟨info, hinfo, hplain⟩ := hplain
  refine ⟨hi, c, h.mem_classesIn.2 hc, ⟨info, h.info? hinfo, hplain⟩, new, ?_, hname.symm,
    hlayout, hlength, hslot⟩
  rw [ManagedImage.classesIn_nextModule] at hc
  exact (h.class?_own hw hc).trans hnew

theorem dispatched (h : Landed r w after m before spec done) (hr : Reliable r w) {d : ClassId}
    {old : LinkedClass} {i : Nat} {a b : Address} (hold : (before.link spec).2.class? d = some old)
    (hb : Leads ⟨r.table, r.settings.preserveStatics⟩ (r.rules w) (before.link spec).2
      before.nextModule d i a b) :
    Dispatched r w after m d old i a b := by
  cases hb with
  | kept => exact .kept
  | brought hc hplain hversion hk hl hlength hi hwanted hs hp =>
    obtain rfl := Option.some.inj (hold.symm.trans hk)
    have hthere := hwanted
    rw [ManagedImage.slotAt?_eq hl, List.getElem?_map] at hthere
    obtain ⟨slot, hslot, rfl⟩ := Option.map_eq_some_iff.1 hthere
    have hcontinues := h.continues hr.valid hc hplain hversion hold hl hlength hi hslot
    refine .brought hcontinues (h.search_eq hr hs none) hp ?_
    rw [ManagedImage.classesIn_nextModule] at hc
    obtain ⟨name, hname⟩ := ManagedImage.slotAt?_link hc hwanted
    have hbound := ManagedImage.bound_bindName (h.valid hr.valid).1 hname hs
    rcases hbound.newest_cases ⟨r.table, r.settings.preserveStatics⟩ with hself | ⟨hown, htable⟩
    · exact .inl hself
    · right
      rwa [h.table hown]
  | refreshed hspecial =>
    rw [SlotPolicy.inPlace]
    split
    · exact .kept
    · cases hb : SlotPolicy.refreshed? ⟨r.table, r.settings.preserveStatics⟩ (before.link spec).2
        before.nextModule a with
      | none => exact .kept
      | some b =>
        obtain ⟨s, hs, hp, hb⟩ := SlotPolicy.refreshed?_eq_some.1 hb
        refine .refreshed (h.isSpecialization hspecial) (h.search_eq hr hs none) hp ?_
        rwa [h.address?_or, ← ManagedImage.address?_nextModule]

end Reloader.Landed

/-- After a load a method of an instance leads where it led before, or it was dispatched anew: by
its position in the new version of the class, or in a specialization by the symbol that it led to.
It is dispatched by position wherever the module has a single new version of the layout and a
patchable symbol at the position. -/
theorem Shared.methodTarget_load (h : Shared r w) (hr : (r.load loop w path).result = .ok report)
    {o : ObjectId} {method : String} {a : Address} (ha : methodTarget w o method = .ok a) :
    let after := r.load loop w path
    ∃ d old i b, classOf w o = .ok (d, old) ∧ old.slotIndex? method = some i ∧
      methodTarget after.world o method = .ok b ∧
      Dispatched r w after report.module d old i a b ∧
      ∀ c new slot s, Succeeds w.image after.world.image report.module c d new old → i ≠ 0 →
        new.slots[i]? = some slot →
        SymbolCache.search after.world.image slot.address none = some s →
        s.kind.patchable r.settings.preserveStatics = true →
        (s.module = report.module → b = slot.address) ∧
        (s.module ≠ report.module →
          b = (after.reloader.table.address? s.name).getD slot.address) := by
  have hreliable := Reliable.of_shared h
  obtain ⟨before, spec, done, hlanded⟩ := Reloader.exists_landed hr
  obtain ⟨d, old, i, hclass, hi, hslot⟩ := Managed.methodTarget_ok.1 ha
  obtain ⟨object, ho, rfl, hold⟩ := Managed.classOf_ok.1 hclass
  have hlinked := hlanded.class?_linked hold
  rw [ManagedImage.slotAt?_eq hold, ← ManagedImage.slotAt?_eq hlinked] at hslot
  obtain ⟨b, hb, hleads⟩ := hlanded.led hreliable object.cls i a hslot
  rw [← hlanded.slotAt? hlinked] at hb
  refine ⟨_, old, i, b, hclass, hi, ?_, hlanded.dispatched hreliable hlinked hleads, ?_⟩
  · obtain ⟨k, hk, he⟩ := hlanded.confined.exists_blank hlinked
    obtain ⟨object', ho', hcls⟩ := hlanded.kept _ Managed.instances_kept o object ho
    have hclass' := Managed.classOf_ok.2 ⟨object', ho', hcls, hlanded.class? hk⟩
    rw [← LinkedClass.slotIndex?_of_blank he] at hi
    exact Managed.methodTarget_ok.2 ⟨object.cls, k, i, hclass', hi, hb⟩
  · intro c new slot s hc hi hslot hs hp
    have hthere : (r.load loop w path).world.image.slotAt? c i = some slot.address := by
      simp [ManagedImage.slotAt?_eq hc.isNew, hslot]
    obtain ⟨name, hname⟩ := hc.exists_bindName hlanded hreliable.valid hthere
    obtain ⟨hsymbol, hbound⟩ := hlanded.bound_of_search hreliable hname hs
    have hnewest := hc.slotAt? hlanded hreliable h.isStarted.registered hi hthere hsymbol hbound hp
    rw [hb, hlanded.newest_eq hbound] at hnewest
    rw [Option.some.inj hnewest]
    constructor
    · intro hm
      rw [SlotPolicy.newest, if_pos hm]
    · intro hm
      rw [SlotPolicy.newest, if_neg hm]

end Load

namespace Dispatched

def shape (slots : List (String × String)) : ModuleSpec Body :=
  oneClass { name := "Shape", slots } [("Shape.area", 1), ("Shape.name", 2)]

def areaFirst : ModuleSpec Body := shape [("area", "Shape.area"), ("name", "Shape.name")]

def nameFirst : ModuleSpec Body := shape [("name", "Shape.name"), ("area", "Shape.area")]

def loaded : Loaded ManagedImage := (fresh false).1.loadSpec (fresh false).2 areaFirst

def populated : Process := (Managed.Command.create ⟨0⟩).perform loaded.world

def reloaded : Loaded ManagedImage := loaded.reloader.loadSpec populated areaFirst

def reordered : Loaded ManagedImage := loaded.reloader.loadSpec populated nameFirst

theorem populated_hosted : Hosted loaded.reloader populated := by
  have hloaded : Hosted loaded.reloader loaded.world := (fresh_hosted false).loadSpec _ (by decide)
  exact .act (.create ⟨0⟩) hloaded (by decide)

theorem methodTarget_load_reloaded : ∃ report, reloaded.result = .ok report ∧
    methodTarget (staged populated areaFirst) ⟨1⟩ "area" = .ok ⟨0x1000⟩ ∧ ∃ old i b,
      classOf (staged populated areaFirst) ⟨1⟩ = .ok (⟨0⟩, old) ∧
      old.slotIndex? "area" = some i ∧ methodTarget reloaded.world ⟨1⟩ "area" = .ok b ∧
      Dispatched loaded.reloader (staged populated areaFirst) reloaded report.module ⟨0⟩ old i
        ⟨0x1000⟩ b ∧ b = ⟨0x1030⟩ := by
  obtain ⟨report, hresult, hmodule⟩ : ∃ report, reloaded.result = .ok report ∧
      report.module = ⟨2⟩ := ⟨_, rfl, rfl⟩
  have hbefore : methodTarget (staged populated areaFirst) ⟨1⟩ "area" = .ok ⟨0x1000⟩ := rfl
  obtain ⟨d, old, i, b, hclass, hi, hb, hdispatched, hexact⟩ := Shared.methodTarget_load
    (populated_hosted.staged areaFirst).shared hresult hbefore
  have hshape : classOf (staged populated areaFirst) ⟨1⟩ = .ok (⟨0⟩, _) := rfl
  obtain ⟨rfl, rfl⟩ := Prod.mk.inj (Except.ok.inj (hclass.symm.trans hshape))
  have hclasses : CodeImage.classesIn reloaded.world.image report.module = [⟨1⟩] := by
    rw [hmodule]
    decide
  have hsucceeds : Succeeds (staged populated areaFirst).image reloaded.world.image report.module
      ⟨1⟩ ⟨0⟩ _ _ :=
    .of_single hclasses rfl (by decide) rfl (by decide) (by decide) (by decide)
  obtain rfl : i = 1 := (Option.some.inj hi).symm
  obtain ⟨hown, _⟩ := hexact ⟨1⟩ _ ⟨"area", ⟨0x1030⟩⟩ ⟨"Shape.area", ⟨0x1030⟩, ⟨2⟩, .method⟩
    hsucceeds (by decide) rfl (by decide) (by decide)
  exact ⟨report, hresult, hbefore, _, 1, b, hclass, hi, hb, hdispatched, hown hmodule.symm⟩

/-- Where the new version has its methods in another order, a call of one reaches another. -/
theorem not_methodTarget_load_named :
    ¬∀ (r : Reloader) (w : Process) (loop : MainLoop) (path : Path) (report : LoadReport)
      (o : ObjectId) (d c : ClassId) (old new : LinkedClass) (method : String) (a b : Address),
      Shared r w → (r.load loop w path).result = .ok report → classOf w o = .ok (d, old) →
      c ∈ CodeImage.classesIn (r.load loop w path).world.image report.module →
      (r.load loop w path).world.image.class? c = some new → new.info.name = old.info.name →
      methodTarget w o method = .ok a →
      methodTarget (r.load loop w path).world o method = .ok b →
      b = a ∨ ∃ wanted, new.slot? method = some wanted ∧ (b = wanted ∨ ∃ s,
        SymbolCache.search (r.load loop w path).world.image wanted none = some s ∧
          (r.load loop w path).reloader.table.address? s.name = some b) := by
  intro h
  obtain ⟨report, hresult, hmodule⟩ : ∃ report, reordered.result = .ok report ∧
      report.module = ⟨2⟩ := ⟨_, rfl, rfl⟩
  have hnamed := h _ _ loop stagePath report ⟨1⟩ ⟨0⟩ ⟨1⟩ _ _ "area" ⟨0x1000⟩ ⟨0x1040⟩
    (populated_hosted.staged nameFirst).shared hresult rfl (by rw [hmodule]; decide) rfl (by decide)
    rfl rfl
  rcases hnamed with hsame | ⟨wanted, hwanted, hown | ⟨s, hs, htable⟩⟩
  · cases hsame
  · subst hown
    cases hwanted
  · obtain rfl : wanted = ⟨0x1030⟩ := (Option.some.inj hwanted).symm
    have hfound : SymbolCache.search reordered.world.image ⟨0x1030⟩ none =
        some ⟨"Shape.area", ⟨0x1030⟩, ⟨2⟩, .method⟩ := by decide
    obtain rfl := Option.some.inj (hs.symm.trans hfound)
    have hnewest : reordered.reloader.table.address? "Shape.area" = some ⟨0x1030⟩ := by decide
    cases hnewest.symm.trans htable

end Dispatched

end HotReload
