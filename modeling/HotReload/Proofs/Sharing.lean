import HotReload.Proofs.Binding
import HotReload.Proofs.Landing
import HotReload.Proofs.Hosting
import HotReload.Proofs.Stages

/-! # Hosts that share a process

A host may load modules without a reloader, and several reloaders may work on one process. A
reloader then misses what it did not load, but what it knows stays right: its table names symbols
that are there, and whatever its cache keeps when a module is loaded is the symbol at the address.
-/

namespace HotReload

open Managed (Command Process Valid)

theorem SymbolCache.moduleLoaded_moduleLoaded (cache : SymbolCache) :
    cache.moduleLoaded.moduleLoaded = cache.moduleLoaded := by
  simp [moduleLoaded]

theorem SlotPolicy.Names.grow {policy : SlotPolicy} {image after : ManagedImage}
    (h : policy.Names image) {more : List Symbol} (hs : after.symbols = image.symbols ++ more) :
    policy.Names after := by
  intro name b hb
  obtain ⟨s, hsymbol, hname⟩ := h name b hb
  refine ⟨s, ?_, hname⟩
  rw [ManagedImage.symbol?] at hsymbol ⊢
  rw [hs, List.find?_append, hsymbol]
  rfl

namespace Interposition

/-- Every entry of the table after recording is an old one or one of the symbols recorded. -/
theorem address?_recordEach {m : ModuleId} {sequence : Nat} {name : String} {b : Address}
    (ss : List Symbol) (acc : List Rebinding × Interposition)
    (h : (ss.foldl (recordOne m sequence) acc).2.address? name = some b) :
    acc.2.address? name = some b ∨ ∃ s ∈ ss, s.name = name ∧ s.address = b := by
  induction ss generalizing acc with
  | nil => exact .inl h
  | cons s ss ih =>
    rcases ih (recordOne m sequence acc s) h with h | ⟨r, hr, hname, hb⟩
    · rw [recordOne_snd] at h
      by_cases hs : s.name = name
      · subst hs
        rw [address?, entry?_record_self, Option.map_some, Option.some.injEq] at h
        cases hold : Option.filter (fun old => decide (sequence < old.sequence))
          ( entry? acc.2 s.name) with
        | none =>
          rw [hold] at h
          exact .inr ⟨s, List.mem_cons_self, rfl, h⟩
        | some old =>
          rw [hold] at h
          have he := (Option.filter_eq_some_iff.1 hold).1
          exact .inl (by rw [address?, he, ← h]; rfl)
      · rw [address?, entry?_record_of_ne _ hs] at h
        exact .inl h
    · exact .inr ⟨r, List.mem_cons_of_mem s hr, hname, hb⟩

theorem address?_absorb {t : Interposition} {preserve : Bool} {image : ManagedImage} {m : ModuleId}
    {done : Absorbed ManagedImage} (h : t.absorb preserve image m = .ok done) {name : String}
    {b : Address} (hb : done.table.address? name = some b) :
    t.address? name = some b ∨
      ∃ s ∈ CodeImage.exports image m, s.name = name ∧ s.address = b := by
  obtain ⟨sequence, batch, _, hr, _⟩ := absorb_cases h
  have ht : done.table = (recordExports preserve m sequence (CodeImage.exports image m) t).2 :=
    congrArg Prod.snd hr
  rw [ht, recordExports_eq] at hb
  rcases address?_recordEach _ ([], t) hb with hb | ⟨s, hs, hname, hb⟩
  · exact .inl hb
  · exact .inr ⟨s, (List.mem_filter.1 hs).1, hname, hb⟩

end Interposition

/-- What a reloader knows of a process is right, as far as it goes. -/
structure Reliable (r : Reloader) (w : Process) : Prop where
  valid : Valid w
  names : SlotPolicy.Names ⟨r.table, r.settings.preserveStatics⟩ w.image
  sound : r.cache.moduleLoaded.Sound w.image

theorem UpToDate.reliable {r : Reloader} {w : Process} (h : UpToDate r w) : Reliable r w where
  valid := h.valid
  names := by
    intro name b hb
    obtain ⟨s, hs, hname, _⟩ := h.newest.exists_symbol? h.valid.linked hb
    exact ⟨s, hs, hname⟩
  sound := h.sound.moduleLoaded (List.append_nil _).symm

namespace Reliable

variable {r : Reloader} {w w' : Process}

theorem extend (h : Reliable r w) (hvalid : Valid w') (hw : Managed.Extends w w') :
    Reliable r w' := by
  obtain ⟨more, hs⟩ := hw.symbols
  refine ⟨hvalid, h.names.grow hs, ?_⟩
  rw [← SymbolCache.moduleLoaded_moduleLoaded]
  exact h.sound.moduleLoaded hs

end Reliable

namespace Reloader.Landed

variable {r : Reloader} {w : Process} {after : Loaded ManagedImage} {m : ModuleId}
  {before : ManagedImage} {spec : ModuleSpec Body} {done : Interposition.Absorbed ManagedImage}

theorem valid (h : Landed r w after m before spec done) (hw : Valid w) :
    before.Linked ∧ Valid { w with image := (before.link spec).2 } := by
  obtain ⟨staged, rfl⟩ := h.restaged
  have hstaged := Managed.valid_held.staged w staged hw
  exact ⟨hstaged.linked, hstaged.link spec⟩

theorem symbols (h : Landed r w after m before spec done) :
    (before.link spec).2.symbols = w.image.symbols ++ (before.linked spec).exports := by
  obtain ⟨staged, rfl⟩ := h.restaged
  exact ManagedImage.symbols_link _ spec

theorem names (h : Landed r w after m before spec done) (hr : Reliable r w) :
    SlotPolicy.Names ⟨r.table, r.settings.preserveStatics⟩ (before.link spec).2 :=
  hr.names.grow h.symbols

/-- The image that is patched, and the cache that is asked. -/
theorem served (h : Landed r w after m before spec done) (hr : Reliable r w) :
    Served (before.link spec).2 (before.link spec).2 r.cache.moduleLoaded := by
  refine ⟨(h.valid hr.valid).2.linked, ?_, rfl⟩
  rw [← SymbolCache.moduleLoaded_moduleLoaded]
  exact hr.sound.moduleLoaded h.symbols

theorem symbol?_linked (h : Landed r w after m before spec done) {a : Address} {s : Symbol}
    (hs : w.image.symbol? a = some s) : (before.link spec).2.symbol? a = some s := by
  rw [ManagedImage.symbol?] at hs ⊢
  rw [h.symbols, List.find?_append, hs]
  rfl

/-- A symbol that the load added is one of the module. -/
theorem module_of_new (h : Landed r w after m before spec done) (hw : Valid w) {a : Address}
    {s : Symbol} (hs : (before.link spec).2.symbol? a = some s)
    (hnone : w.image.symbol? a = none) : s.module = m := by
  have hin := ManagedImage.mem_of_symbol? hs
  rw [h.symbols, List.mem_append] at hin
  cases hin with
  | inl hin =>
    have hfound := hw.linked.symbol?_of_mem hin
    rw [ManagedImage.address_of_symbol? hs, hnone] at hfound
    cases hfound
  | inr hin =>
    rw [h.module]
    exact (before.mem_exports_linked spec hin).1

/-- A load leaves what the reloader knows right. -/
theorem reliable (h : Landed r w after m before spec done) (hr : Reliable r w) :
    Reliable after.reloader after.world := by
  obtain ⟨_, hlinked⟩ := h.valid hr.valid
  have hserved : Served (before.link spec).2 (r.patchLinked w before spec).image
      (r.patchLinked w before spec).cache :=
    PatchPass.patchClasses_ready (p := ⟨_, _, _⟩) (h.served hr) _
  have hdone : Valid { w with image := done.image } :=
    (hlinked.confined h.confined).rebound (Interposition.absorb_rebound h.absorbed)
  obtain ⟨more, hsymbols⟩ := h.extends_linked.symbols
  refine ⟨h.kept _ Managed.valid_held.toKept hdone, ?_, ?_⟩
  · rw [h.reloader]
    refine SlotPolicy.Names.grow (fun name b hb => ?_) hsymbols
    -- An entry of the table is an old one, or a symbol of the module.
    rcases Interposition.address?_absorb h.absorbed hb with hb | ⟨s, hs, hname, hb⟩
    · exact h.names hr name b hb
    · have hexports : CodeImage.exports (r.patchLinked w before spec).image m =
          (before.linked spec).exports := by
        simp [CodeImage.exports, h.confined.module?, h.module?.1]
      rw [hexports] at hs
      have hin : s ∈ (before.link spec).2.symbols := by
        rw [h.symbols]
        exact List.mem_append_right _ hs
      exact ⟨s, hb ▸ hlinked.linked.symbol?_of_mem hin, hname⟩
  · rw [h.reloader]
    exact (hserved.sound.of_symbols hserved.symbols.symm).moduleLoaded hsymbols

theorem search_eq (h : Landed r w after m before spec done) (hr : Reliable r w) {a : Address}
    {s : Symbol} (hs : (before.link spec).2.symbol? a = some s) (scope : Option ModuleId) :
    SymbolCache.search after.world.image a scope = some s := by
  rw [(h.reliable hr).valid.linked.search_eq]
  exact h.extends_linked.symbol? hs

theorem symbol?_of_search (h : Landed r w after m before spec done) (hr : Reliable r w)
    {a : Address} {s : Symbol} {scope : Option ModuleId}
    (hs : SymbolCache.search after.world.image a scope = some s) (hm : s.module = m) :
    s ∈ (before.linked spec).exports ∧ (before.link spec).2.symbol? a = some s := by
  have hlinked := (h.reliable hr).valid.linked
  rw [hlinked.search_eq] at hs
  obtain ⟨id, k, hk, hin⟩ := ManagedImage.mem_symbols.1 (ManagedImage.mem_of_symbol? hs)
  obtain rfl : id = m := (hlinked.owned hk s hin).symm.trans hm
  obtain ⟨_, k', hk', he⟩ := h.module?
  obtain rfl := Option.some.inj (hk.symm.trans hk')
  have hexports := congrArg LinkedModule.exports he
  have hin' : s ∈ (before.linked spec).exports := hexports ▸ hin
  refine ⟨hin', ?_⟩
  rw [← ManagedImage.address_of_symbol? hs]
  apply (h.valid hr.valid).2.linked.symbol?_of_mem
  rw [ManagedImage.symbols_link]
  exact List.mem_append_right _ hin'

/-- What a name of the module is bound to can be searched for after the load. -/
theorem bound_of_search (h : Landed r w after m before spec done) (hr : Reliable r w) {a : Address}
    {name : String} (ha : a = before.bindName (before.linked spec) name) {s : Symbol}
    {scope : Option ModuleId} (hs : SymbolCache.search after.world.image a scope = some s) :
    (before.link spec).2.symbol? a = some s ∧ before.Bound spec a s := by
  have hafter := (h.reliable hr).valid.linked
  have hne : a ≠ .null := by
    intro hnull
    rw [hafter.search_eq, hnull, hafter.symbol?_null] at hs
    cases hs
  obtain ⟨s', hs', hbound⟩ := ManagedImage.exists_bound (h.valid hr.valid).1 ha hne
  obtain rfl := Option.some.inj (hs.symm.trans (h.search_eq hr hs' scope))
  exact ⟨hs', hbound⟩

theorem not_isSpecialization (h : Landed r w after m before spec done) (hw : Valid w) :
    ∀ c ∈ CodeImage.classesIn (before.link spec).2 before.nextModule,
      ¬IsSpecialization (before.link spec).2 (r.rules w) before.nextModule c :=
  fun _ hc => (h.valid hw).2.not_isSpecialization r hc

theorem class?_own (h : Landed r w after m before spec done) (hw : Valid w) {c : ClassId}
    (hc : c ∈ (before.linked spec).classes) :
    after.world.image.class? c = (before.link spec).2.class? c := by
  rw [← ManagedImage.classesIn_nextModule] at hc
  have hlinked := (h.valid hw).2.linked
  have hpatched : (r.patchLinked w before spec).image.class? c = (before.link spec).2.class? c := by
    apply h.confined.outside
    rintro (⟨e, he, hold⟩ | hspecial)
    · exact not_isOlderVersionOf hlinked hc he hold
    · exact h.not_isSpecialization hw c hc hspecial
  obtain ⟨l, hl, _⟩ := hlinked.exists_class? hc
  rw [hl]
  exact h.class? (hpatched.trans hl)

/-- What every stage of the patch keeps holds when the module is patched in. -/
theorem keeps (h : Landed r w after m before spec done) (hr : Reliable r w)
    {I : ManagedImage → Prop}
    (hI : PatchPass.Kept ⟨r.table, r.settings.preserveStatics⟩ (r.rules w) (before.link spec).2
      before.nextModule I) (hlinked : I (before.link spec).2) :
    I (r.patchLinked w before spec).image :=
  hI.patchClasses (p := ⟨_, _, _⟩) rfl (h.served hr) hlinked

theorem isNewest_before (h : Landed r w after m before spec done) (hup : UpToDate r w) :
    r.table.IsNewest r.settings.preserveStatics before := by
  obtain ⟨staged, rfl⟩ := h.restaged
  exact hup.newest

/-- The table of a reloader that loads every module is up to date with the module. -/
theorem isNewest (h : Landed r w after m before spec done) (hup : UpToDate r w) :
    after.reloader.table.IsNewest r.settings.preserveStatics (before.link spec).2 := by
  have habsorbed := h.absorbed
  rw [h.module] at habsorbed
  rw [h.reloader]
  apply ((h.isNewest_before hup).absorb (h.valid hup.valid).1 spec h.confined.modules
    habsorbed).of_modules
  rw [(Interposition.absorb_rebound h.absorbed).unbound, h.confined.modules]

/-- The table in the end says the same of a symbol that the module was bound to. -/
theorem newest_eq (h : Landed r w after m before spec done) {a : Address} {s : Symbol}
    (hbound : before.Bound spec a s) (preserve : Bool) :
    SlotPolicy.newest ⟨r.table, preserve⟩ s a before.nextModule =
      SlotPolicy.newest ⟨after.reloader.table, preserve⟩ s a m := by
  cases hbound with
  | own hm _ => simp [SlotPolicy.newest, hm, h.module]
  | inherited _ hown _ => simp [SlotPolicy.newest, h.table hown, h.module]

/-- What the table holds in the end for a patchable symbol that the module was bound to. -/
theorem newest_of_bound (h : Landed r w after m before spec done) (hup : UpToDate r w) {a : Address}
    {s : Symbol} (hs : (before.link spec).2.symbol? a = some s) (hbound : before.Bound spec a s)
    (hp : s.kind.patchable r.settings.preserveStatics = true) :
    let b := SlotPolicy.newest ⟨r.table, r.settings.preserveStatics⟩ s a before.nextModule
    after.reloader.table.address? s.name = some b ∧ (s.module = m → b = a) ∧
      (s.module ≠ m → CodeImage.address? after.world.image m s.name = none ∧
        w.image.firstExport? s.name = some a) := by
  obtain ⟨newest, hnewest, htarget⟩ := hbound.exists_newest? (h.valid hup.valid).1
    (h.isNewest_before hup) hs hp
  refine ⟨?_, ?_, ?_⟩
  · rw [Interposition.address?, h.isNewest hup s.name, hnewest, htarget]
    rfl
  · intro hm
    simp [SlotPolicy.newest, hm, h.module]
  · intro hm
    rw [h.address?]
    cases hbound with
    | own hown _ => exact absurd (hown.trans h.module.symm) hm
    | inherited _ hown hfirst =>
      obtain ⟨staged, rfl⟩ := h.restaged
      exact ⟨hown, hfirst⟩

end Reloader.Landed

section Runs

/-- One step of a process: a command of the host, a new reloader, or a load through some
reloader. -/
inductive Managed.Step : Process → Process → Prop where
  | act (c : Command) (w) : Step w (c.perform w)
  | start (settings : Settings) (w) : Step w (Reloader.start settings w).2
  | load (r : Reloader) (loop : MainLoop) (w) (path : Path) : Step w (r.load loop w path).world

/-- A process that came about from an empty image. -/
inductive Managed.Started : Process → Prop where
  | empty (w : Process) {hasHook : Bool} {staged} :
    w.image = { ManagedImage.empty hasHook with staged } → (∀ s ∈ w.recorders, s = {}) → Started w
  | step {w w'} : Started w → Step w w' → Started w'

/-- A reloader and a process in the hands of a host that does with them what it likes. -/
inductive Shared : Reloader → Process → Prop where
  | start {w} (settings : Settings) :
    Managed.Started w → Shared (Reloader.start settings w).1 (Reloader.start settings w).2
  | listen {r w} (listeners : List Listener) : Shared r w → Shared { r with listeners } w
  | step {r w w'} : Shared r w → Managed.Step w w' → Shared r w'
  | load {r w} (loop : MainLoop) (path : Path) :
    Shared r w → Shared (r.load loop w path).reloader (r.load loop w path).world

variable {r : Reloader} {w w' : Process}

theorem Managed.Step.keeps {R : Process → Process → Prop} (h : Held R)
    (hr : ∀ (w : Process) image, w.image.Rebound image → R w { w with image })
    (hs : Step w w') : R w w' := by
  cases hs with
  | act c => exact h.perform_of_rebound hr c w
  | start settings => exact h.start settings w
  | load r loop _ path => exact (h.handled hr).reload r loop w path

theorem Managed.Step.valid (hs : Step w w') : Valid w → Valid w' :=
  hs.keeps valid_held fun _ _ hr hv => hv.rebound hr

/-- A reloader that loads every module shares the process with nobody. -/
theorem Hosted.shared (h : Hosted r w) : Shared r w := by
  induction h with
  | start settings w himage hrecorders => exact .start settings (.empty w himage hrecorders)
  | listen listeners _ ih => exact .listen listeners ih
  | act c _ _ ih => exact .step ih (.act c _)
  | load loop path _ _ ih => exact .load loop path ih

theorem Shared.isStarted (h : Shared r w) : Managed.Started w := by
  induction h with
  | start settings hw => exact hw.step (.start settings _)
  | listen _ _ ih => exact ih
  | step _ hs ih => exact ih.step hs
  | load loop path _ ih => exact ih.step (.load _ loop _ path)

theorem Managed.Started.valid (h : Started w) : Valid w := by
  induction h with
  | empty w himage hrecorders => exact Valid.of_empty himage hrecorders
  | step _ hs ih => exact hs.valid ih

namespace Reliable

theorem start (settings : Settings) (h : Valid w) :
    Reliable (Reloader.start settings w).1 (Reloader.start settings w).2 where
  valid := Managed.valid_held.start settings w h
  names _ _ hb := by cases hb
  sound := SymbolCache.sound_empty _

theorem load (h : Reliable r w) (loop : MainLoop) (path : Path) :
    Reliable (r.load loop w path).reloader (r.load loop w path).world := by
  cases hr : (r.load loop w path).result with
  | error e =>
    obtain ⟨hreloader, staged, hw⟩ := Reloader.load_error hr
    rw [hreloader, hw]
    exact h.extend (Managed.valid_held.staged w staged h.valid) (List.prefix_refl _)
  | ok report =>
    obtain ⟨before, spec, done, hlanded⟩ := Reloader.exists_landed hr
    exact hlanded.reliable h

theorem of_shared (h : Shared r w) : Reliable r w := by
  induction h with
  | start settings hw => exact start settings hw.valid
  | listen listeners _ ih => exact ⟨ih.valid, ih.names, ih.sound⟩
  | step _ hs ih =>
    exact ih.extend (hs.valid ih.valid) (hs.keeps Managed.extends_held Managed.extends_rebound)
  | load loop path _ ih => exact ih.load loop path

end Reliable

end Runs

section Staging

variable {r : Reloader} {w : Process}

def oneClass (c : ClassSpec) (methods : List (String × Int)) : ModuleSpec Body :=
  { name := c.name
    functions := methods.map fun f => ⟨f.1, .method, .constant (.int f.2)⟩
    classes := [c] }

def stagePath : Path := ⟨[0x6d]⟩

def staged (w : Process) (m : ModuleSpec Body) : Process := (Command.stage stagePath m).perform w

def loop : MainLoop := Reloader.loopFor {} false

def Reloader.loadSpec (r : Reloader) (w : Process) (m : ModuleSpec Body) : Loaded ManagedImage :=
  r.load loop (staged w m) stagePath

def fresh (hasHook : Bool) : Reloader × Process := Reloader.start {} { image := .empty hasHook }

theorem fresh_hosted (hasHook : Bool) : Hosted (fresh hasHook).1 (fresh hasHook).2 :=
  .start {} { image := .empty hasHook } rfl fun s hs => absurd hs (Array.not_mem_empty s)

def loadedOnce (c : ClassSpec) (method : String) : Loaded ManagedImage :=
  (fresh false).1.loadSpec (fresh false).2 (oneClass c [(method, 1)])

def loadedTwice (c : ClassSpec) (method : String) : Loaded ManagedImage :=
  (loadedOnce c method).reloader.loadSpec (loadedOnce c method).world (oneClass c [(method, 2)])

/-- The third load has the class without the method, which is left to the earlier modules. -/
def loadedThrice (c : ClassSpec) (method : String) : Loaded ManagedImage :=
  (loadedTwice c method).reloader.loadSpec (loadedTwice c method).world (oneClass c [])

theorem Hosted.staged (h : Hosted r w) (m : ModuleSpec Body) : Hosted r (staged w m) :=
  .act (.stage stagePath m) h (Nat.le_refl _)

theorem Hosted.loadSpec (h : Hosted r w) (m : ModuleSpec Body)
    (hone : (r.loadSpec w m).world.image.modules.length ≤ w.image.modules.length + 1) :
    Hosted (r.loadSpec w m).reloader (r.loadSpec w m).world :=
  .load loop stagePath (h.staged m) hone

end Staging

end HotReload
