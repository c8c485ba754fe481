import HotReload.Proofs.Closed

/-! # Calls that never miss

A host that loads, specializes and reloads, and writes no address itself, keeps the image closed,
whatever code runs in between. A call of a method, a selector or a name that is declared then
reaches a function.
-/

namespace HotReload

open Managed (Command Instantiated Process Tended classOf)

namespace Managed

/-- The image is closed, and every object is an instance of one of its classes. -/
structure Sealed (w : Process) : Prop where
  closed : w.image.Closed
  instantiated : Instantiated w

theorem Instantiated.withClasses {w : Process} (h : Instantiated w) {image : ManagedImage}
    (hclasses : ∀ c, (w.image.class? c).isSome = true → (image.class? c).isSome = true) :
    Instantiated { w with image } := fun i hi => hclasses i.cls (h i hi)

theorem Instantiated.grow {w w' : Process} (h : Instantiated w) (hr : Registers w w')
    (hobjects : w'.objects = w.objects) : Instantiated w' := by
  intro i hi
  rw [hobjects] at hi
  obtain ⟨k, hk⟩ := Option.isSome_iff_exists.1 (h i hi)
  rw [hr.class? hk]
  rfl

theorem class?_of_create {w w' : Process} {c : ClassId} {o : ObjectId}
    (h : create w c = .ok (o, w')) : (w.image.class? c).isSome = true := by
  cases hk : w.image.class? c with
  | some k => rfl
  | none => simp [create, ManagedImage.classOrFail, hk, Except.map] at h

theorem sealed_tended : Tended fun w w' => Sealed w → Sealed w' where
  refl _ h := h
  trans h h' hw := h' (h hw)
  setField w o name v h := by
    unfold World.setField
    split
    · exact h
    · refine ⟨h.closed, fun i hi => ?_⟩
      obtain ⟨j, hj, rfl⟩ := Array.mem_iff_getElem.1 hi
      simp only [Array.getElem_modify]
      have hj' : j < w.objects.size := by simpa using hj
      have hcls := h.instantiated _ (Array.getElem_mem hj')
      split <;> exact hcls
  write _ _ h := ⟨h.closed, h.instantiated⟩
  count _ _ h := ⟨h.closed, h.instantiated⟩
  specialize := by
    intro w definition arguments c w' hs h
    rcases specialize_cases hs with rfl | ⟨k, hk, _, rfl | ⟨r, rfl⟩⟩
    · exact h
    · exact ⟨h.closed.addClass hk _, h.instantiated.grow (registers_kept.specialize hs) rfl⟩
    · exact ⟨h.closed.addClass hk _, h.instantiated.grow (registers_kept.specialize hs) rfl⟩
  load := by
    intro w m id w' hl h
    have hregisters := registers_kept.load hl
    cases hi : w.image.load m with
    | error e => simp [Managed.load, hi, Except.map] at hl
    | ok done =>
      simp only [Managed.load, hi, Except.map, Except.ok.injEq, Prod.mk.injEq] at hl
      obtain ⟨_, rfl⟩ := hl
      exact ⟨h.closed.load hi, h.instantiated.grow hregisters rfl⟩
  create := by
    intro w c o w' hc h
    have hclass := class?_of_create hc
    obtain ⟨i, rfl, rfl⟩ := create_eq hc
    refine ⟨h.closed, fun j hj => ?_⟩
    rcases Array.mem_push.1 hj with hj | rfl
    · exact h.instantiated j hj
    · exact hclass
  staged _ _ h := ⟨⟨h.closed.classes, h.closed.callSites⟩, h.instantiated⟩
  observed _ _ h := ⟨⟨h.closed.classes, h.closed.callSites⟩, h.instantiated⟩
  named _ _ h := ⟨h.closed, h.instantiated⟩
  recorders _ h := ⟨h.closed, h.instantiated⟩

end Managed

section Load

variable {r : Reloader} {w : Process}

theorem Shared.distinct (h : Shared r w) : r.table.Distinct := by
  induction h with
  | start settings _ => exact List.nodup_nil
  | listen _ _ ih => exact ih
  | step _ _ ih => exact ih
  | @load r w loop path _ ih =>
    cases hr : (r.load loop w path).result with
    | error e =>
      obtain ⟨hreloader, _⟩ := Reloader.load_error hr
      rwa [hreloader]
    | ok report =>
      obtain ⟨before, spec, done, hlanded⟩ := Reloader.exists_landed hr
      rw [hlanded.reloader]
      exact Interposition.absorb_distinct ih hlanded.absorbed

namespace Reloader.Landed

variable {after : Loaded ManagedImage} {m : ModuleId} {before : ManagedImage}
  {spec : ModuleSpec Body} {done : Interposition.Absorbed ManagedImage}

theorem names_patched (h : Landed r w after m before spec done) (hr : Reliable r w) :
    SlotPolicy.Names ⟨r.table, r.settings.preserveStatics⟩
      (r.patchLinked w before spec).image :=
  (h.names hr).grow (by rw [h.confined.symbols, List.append_nil])

theorem isSealed (h : Landed r w after m before spec done) (hr : Reliable r w)
    (hdistinct : r.table.Distinct) (hw : Managed.Sealed w) : Managed.Sealed after.world := by
  have hbefore : before.Closed := by
    obtain ⟨staged, rfl⟩ := h.restaged
    exact ⟨hw.closed.classes, hw.closed.callSites⟩
  have hpatched : (r.patchLinked w before spec).image.Closed :=
    (hbefore.load h.loads).patched h.confined (h.names hr) (h.led hr) (h.redirected hr)
  have hdone : done.image.Closed := hpatched.absorbed hdistinct (h.names_patched hr) h.absorbed
  apply h.kept _ Managed.sealed_tended.toKept
  refine ⟨hdone, hw.instantiated.withClasses fun c hc => ?_⟩
  obtain ⟨k, hk⟩ := Option.isSome_iff_exists.1 hc
  rw [ManagedImage.class?, (Interposition.absorb_rebound h.absorbed).classes,
    ← ManagedImage.class?, h.confined.class?_isSome, h.class?_linked hk]
  rfl

end Reloader.Landed

theorem Shared.sealed_load (h : Shared r w) (loop : MainLoop) (path : Path)
    (hw : Managed.Sealed w) : Managed.Sealed (r.load loop w path).world := by
  cases hr : (r.load loop w path).result with
  | error e =>
    obtain ⟨_, staged, hworld⟩ := Reloader.load_error hr
    rw [hworld]
    exact Managed.sealed_tended.staged w staged hw
  | ok report =>
    obtain ⟨before, spec, done, hlanded⟩ := Reloader.exists_landed hr
    exact hlanded.isSealed (Reliable.of_shared h) h.distinct hw

end Load

namespace Managed

/-- A process, and the reloaders that work on it, in the hands of a host that writes no address
itself. Earlier states of a reloader stay in the list; nothing depends on their being given up. -/
inductive Reached : List Reloader → Process → Prop where
  | empty (w) {hasHook staged} : w.image = { ManagedImage.empty hasHook with staged } →
    w.objects = #[] → (∀ s ∈ w.recorders, s = {}) → Reached [] w
  | act {rs w} (c : Command) : Reached rs w → c.writes = false → Reached rs (c.perform w)
  | start {rs w} (settings : Settings) : Reached rs w →
    Reached ((Reloader.start settings w).1 :: rs) (Reloader.start settings w).2
  | listen {rs w r} (listeners : List Listener) : Reached rs w → r ∈ rs →
    Reached ({ r with listeners } :: rs) w
  | load {rs w r} (loop : MainLoop) (path : Path) : Reached rs w → r ∈ rs →
    Reached ((r.load loop w path).reloader :: rs) (r.load loop w path).world

variable {rs : List Reloader} {w : Process}

theorem Reached.shared (h : Reached rs w) : Started w ∧ ∀ r ∈ rs, Shared r w := by
  induction h with
  | empty w himage _ hrecorders =>
    exact ⟨.empty w himage hrecorders, fun r hr => absurd hr List.not_mem_nil⟩
  | act c _ _ ih => exact ⟨ih.1.step (.act c _), fun r hr => (ih.2 r hr).step (.act c _)⟩
  | start settings _ ih =>
    refine ⟨ih.1.step (.start settings _), List.forall_mem_cons.2 ⟨.start settings ih.1, ?_⟩⟩
    exact fun r hr => (ih.2 r hr).step (.start settings _)
  | listen listeners _ hr ih =>
    exact ⟨ih.1, List.forall_mem_cons.2 ⟨.listen listeners (ih.2 _ hr), ih.2⟩⟩
  | @load _ w r loop path _ hr ih =>
    have hstep : Step w (r.load loop w path).world := .load r loop w path
    refine ⟨ih.1.step hstep, List.forall_mem_cons.2 ⟨.load loop path (ih.2 r hr), ?_⟩⟩
    exact fun r' hr' => (ih.2 r' hr').step hstep

theorem Reached.sealed (h : Reached rs w) : Sealed w := by
  induction h with
  | @empty w hasHook staged himage hobjects _ =>
    have hempty := ManagedImage.closed_empty hasHook
    refine ⟨himage ▸ ⟨hempty.classes, hempty.callSites⟩, fun i hi => ?_⟩
    rw [hobjects] at hi
    exact absurd hi (Array.not_mem_empty i)
  | act c _ hc ih => exact sealed_tended.perform hc _ ih
  | start settings _ ih => exact sealed_tended.start settings _ ih
  | listen _ _ _ ih => exact ih
  | load loop path h hr ih => exact (h.shared.2 _ hr).sealed_load loop path ih

end Managed

/-- There is a function at the address, and the address is not null. -/
def ManagedImage.HasFunction (image : ManagedImage) (a : Address) : Prop :=
  a ≠ .null ∧ ∃ g, image.functionAt? a = some g

/-- Every address in a table or a call site is that of a function, every export has a function at an
address of its own, and the destructor is the first slot of every class. -/
structure ManagedImage.Intact (image : ManagedImage) : Prop where
  slots : ∀ c i a, image.slotAt? c i = some a → image.HasFunction a
  selectors : ∀ c t j selector a, image.entryAt? c t j = some (selector, a) → image.HasFunction a
  callSites : ∀ m name a, CodeImage.callSite? image m name = some a → image.HasFunction a
  exports : ∀ m, ∀ s ∈ CodeImage.exports image m,
    ∃ g, image.functionAt? s.address = some g ∧ g.symbol = s
  distinct : (image.symbols.map (·.address)).Nodup
  destructors : ∀ c k, image.class? c = some k →
    (k.slots.map (·.name)).head? = some ClassSpec.destructorSlot

/-- The tables of an image agree with each other: a function is found at its symbol's address, a
name at the last export of it, and a class has as many slots as slot names. -/
structure ManagedImage.Agrees (image : ManagedImage) : Prop where
  functions : ∀ a g, image.functionAt? a = some g → g.symbol.address = a
  names : ∀ m name, CodeImage.address? image m name =
    ((CodeImage.exports image m).reverse.find? (·.name == name)).map (·.address)
  slotNames : ∀ c k, image.class? c = some k → ∃ addresses,
    CodeImage.slots image c = .ok addresses ∧ addresses.length = (k.slots.map (·.name)).length

namespace ManagedImage

variable {image : ManagedImage} {a : Address}

/-- They do in every image, whatever happens to it: a function is kept with its symbol, and an
address of a slot with the slot's name. -/
theorem agrees (image : ManagedImage) : image.Agrees where
  functions a g hg := by
    have hsymbol := image.functionAt?_symbol a
    rw [hg] at hsymbol
    exact address_of_symbol? hsymbol.symm
  names m name := by
    cases hk : image.module? m <;>
      simp [CodeImage.address?, CodeImage.exports, hk, LinkedModule.address?, LinkedModule.symbol?]
  slotNames c k hk := ⟨k.slots.map (·.address), slots_of_class? hk, by simp⟩

theorem Linked.hasFunction (hlinked : image.Linked) (h : image.Defines a) :
    image.HasFunction a := by
  obtain ⟨s, hs, rfl⟩ := h
  refine ⟨fun hnull => ?_, ?_⟩
  · have hpos := (hlinked.placed s hs).1
    rw [hnull] at hpos
    exact Nat.lt_irrefl 0 hpos
  · have hfound := image.functionAt?_symbol s.address
    rw [hlinked.symbol?_of_mem hs] at hfound
    obtain ⟨g, hg, _⟩ := Option.map_eq_some_iff.1 hfound
    exact ⟨g, hg⟩

/-- A closed image dangles nowhere: linking has put a function at the address of each symbol. -/
theorem Closed.intact (h : image.Closed) (hlinked : image.Linked) : image.Intact where
  slots c i a ha := by
    obtain ⟨k, hk, ha⟩ := Option.bind_eq_some_iff.1 ha
    obtain ⟨s, hs, rfl⟩ := Option.map_eq_some_iff.1 ha
    exact hlinked.hasFunction ((h.class? hk).slots s (List.mem_of_getElem? hs))
  selectors c t j selector a ha := by
    obtain ⟨k, hk, ha⟩ := Option.bind_eq_some_iff.1 ha
    exact hlinked.hasFunction ((h.class? hk).selectors t _ (List.mem_of_getElem? ha))
  callSites m name a ha := hlinked.hasFunction (h.callSites m name a ha)
  exports m s hs := by
    have hfound := image.functionAt?_symbol s.address
    rw [hlinked.symbol?_of_mem (mem_symbols_of_exports hs)] at hfound
    exact Option.map_eq_some_iff.1 hfound
  distinct := by
    rw [List.Nodup, List.pairwise_map]
    exact hlinked.increasing.imp fun hlt heq => Nat.ne_of_lt hlt (congrArg Address.value heq)
  destructors c k hk := (h.class? hk).destructor

end ManagedImage

namespace LinkedClass

variable {k : LinkedClass}

theorem exists_slot? {slot : Slot} (h : slot ∈ k.slots) :
    ∃ s ∈ k.slots, k.slot? slot.name = some s.address := by
  have hsome : (k.slots.find? (·.name == slot.name)).isSome = true :=
    List.find?_isSome.2 ⟨slot, h, beq_self_eq_true _⟩
  obtain ⟨s, hs⟩ := Option.isSome_iff_exists.1 hsome
  exact ⟨s, List.mem_of_find?_eq_some hs, by rw [slot?, hs]; rfl⟩

theorem exists_selector? {t : SelectorTable} {e : String × Address} (h : e ∈ k.table t) :
    ∃ a, (e.1, a) ∈ k.table t ∧ k.selector? t e.1 = some a := by
  cases ha : k.selector? t e.1 with
  | none =>
    have hne := List.lookup_eq_none_iff.1 ha e h
    simp at hne
  | some a => exact ⟨a, mem_of_lookup ha, rfl⟩

end LinkedClass

namespace Managed

def Runs (w : Process) (a : Address) (receiver : Option ObjectId) (args : List Datum)
    (outcome : Outcome) : Prop :=
  a ≠ .null ∧ ∃ g, w.image.functionAt? a = some g ∧
    let run := eval (callAt (callDepth - 1)) ⟨g.symbol.module, receiver, args⟩ g.body w
    outcome = (.ok run.1, run.2)

/-- Every call of something declared runs a function. -/
structure Callable (w : Process) : Prop where
  classes : ∀ o i, w.instance? o = some i → ∃ k, classOf w o = .ok (i.cls, k)
  methods : ∀ o c k, classOf w o = .ok (c, k) → ∀ slot ∈ k.slots, ∀ args,
    ∃ a, methodTarget w o slot.name = .ok a ∧
      Runs w a (some o) args (callMethod w o slot.name args)
  messages : ∀ o c k, classOf w o = .ok (c, k) → ∀ e ∈ k.table .onInstances, ∀ args,
    ∃ a, messageTarget w o e.1 = .ok a ∧ Runs w a (some o) args (send w o e.1 args)
  classMessages : ∀ c k, w.image.class? c = some k → ∀ e ∈ k.table .onClass, ∀ args,
    ∃ a, classTarget w.image c e.1 = .ok a ∧ Runs w a none args (sendClass w c e.1 args)
  names : ∀ m name a, CodeImage.callSite? w.image m name = some a → ∀ args,
    Runs w a none args (callSymbol w m name args)

variable {rs : List Reloader} {w : Process} {a : Address}

theorem callAt_succ {g : LinkedFunction} (h : w.image.functionAt? a = some g) (depth : Nat)
    (receiver : Option ObjectId) (args : List Datum) :
    let run := eval (callAt depth) ⟨g.symbol.module, receiver, args⟩ g.body w
    callAt (depth + 1) a receiver args w = (.ok run.1, run.2) := by
  rw [callAt, h]

theorem runs_callAddress (h : w.image.HasFunction a) (receiver : Option ObjectId)
    (args : List Datum) : Runs w a receiver args (callAddress a receiver args w) := by
  obtain ⟨hne, g, hg⟩ := h
  -- The outermost call takes one level, and there are more than that.
  have hdepth : callAddress = callAt (callDepth - 1 + 1) := rfl
  rw [hdepth]
  exact ⟨hne, g, hg, callAt_succ hg (callDepth - 1) receiver args⟩

theorem exists_runs {target : Except Failure Address} (ht : target = .ok a)
    (h : w.image.HasFunction a) (receiver : Option ObjectId) (args : List Datum) :
    ∃ a, target = .ok a ∧ Runs w a receiver args (callTo target receiver args w) := by
  subst ht
  exact ⟨a, rfl, runs_callAddress h receiver args⟩

theorem Sealed.callable (h : Sealed w) (hlinked : w.image.Linked) : Callable w where
  classes o i hi := by
    obtain ⟨k, hk⟩ := Option.isSome_iff_exists.1 (h.instantiated i (World.mem_of_instance? hi))
    exact ⟨k, classOf_ok.2 ⟨i, hi, rfl, hk⟩⟩
  methods o c k hc slot hslot args := by
    obtain ⟨_, _, _, hk⟩ := classOf_ok.1 hc
    obtain ⟨s, hs, hfirst⟩ := LinkedClass.exists_slot? hslot
    have ht : methodTarget w o slot.name = .ok s.address := by
      simp [methodTarget, hc, hfirst, bind, Except.bind]
    exact exists_runs ht (hlinked.hasFunction ((h.closed.class? hk).slots s hs)) (some o) args
  messages o c k hc e he args := by
    obtain ⟨_, _, _, hk⟩ := classOf_ok.1 hc
    obtain ⟨a, ha, hfirst⟩ := LinkedClass.exists_selector? he
    have ht : messageTarget w o e.1 = .ok a := by
      simp [messageTarget, hc, hfirst, bind, Except.bind]
    exact exists_runs ht (hlinked.hasFunction ((h.closed.class? hk).selectors _ _ ha)) (some o) args
  classMessages c k hk e he args := by
    obtain ⟨a, ha, hfirst⟩ := LinkedClass.exists_selector? he
    have ht : classTarget w.image c e.1 = .ok a := by
      simp [classTarget, ManagedImage.classOrFail, hk, hfirst, bind, Except.bind]
    exact exists_runs ht (hlinked.hasFunction ((h.closed.class? hk).selectors _ _ ha)) none args
  names m name a ha args := by
    obtain ⟨k, hk, ht⟩ := Option.bind_eq_some_iff.1 ha
    have ht : callTarget w.image m name = .ok a := by
      simp [callTarget, hk, ht]
    rw [callSymbol, ht]
    exact runs_callAddress (hlinked.hasFunction (h.closed.callSites m name a ha)) none args

/-- Nothing dangles in a process that no host has written addresses into, and every call of what is
declared there runs a function. That the tables agree holds of every image. -/
theorem Reached.intact_and_callable (h : Reached rs w) :
    w.image.Intact ∧ w.image.Agrees ∧ Callable w := by
  have hsealed := h.sealed
  have hlinked := h.shared.1.valid.linked
  exact ⟨hsealed.closed.intact hlinked, w.image.agrees, hsealed.callable hlinked⟩

end Managed

theorem Managed.Reached.loadSpec {rs : List Reloader} {w : Process} {r : Reloader}
    (h : Managed.Reached rs w) (hr : r ∈ rs) (m : ModuleSpec Body) :
    Managed.Reached ((r.loadSpec w m).reloader :: rs) (r.loadSpec w m).world :=
  .load loop stagePath (.act (.stage stagePath m) h rfl) hr

namespace Dispatched

theorem reloaded_reached :
    Managed.Reached [reloaded.reloader, loaded.reloader, (fresh false).1] reloaded.world := by
  have hempty : Managed.Reached [] { image := ManagedImage.empty false } :=
    .empty _ rfl rfl fun _ hs => absurd hs (Array.not_mem_empty _)
  have hfresh : Managed.Reached [(fresh false).1] (fresh false).2 := hempty.start {}
  have hloaded := hfresh.loadSpec List.mem_cons_self areaFirst
  have hpopulated := hloaded.act (.create ⟨0⟩) rfl
  exact hpopulated.loadSpec List.mem_cons_self areaFirst

theorem intact_and_callable_reloaded :
    reloaded.world.image.slotAt? ⟨0⟩ 1 = some ⟨0x1030⟩ ∧
      reloaded.world.image.HasFunction ⟨0x1030⟩ ∧
      Managed.Runs reloaded.world ⟨0x1030⟩ (some ⟨1⟩) []
        (Managed.callMethod reloaded.world ⟨1⟩ "area" []) ∧
      Managed.Runs reloaded.world ⟨0x1030⟩ none []
        (Managed.callSymbol reloaded.world ⟨1⟩ "Shape.area" []) := by
  obtain ⟨hintact, _, hcallable⟩ := reloaded_reached.intact_and_callable
  have hslot : reloaded.world.image.slotAt? ⟨0⟩ 1 = some ⟨0x1030⟩ := by decide
  have hclass : classOf reloaded.world ⟨1⟩ = .ok (⟨0⟩, _) := rfl
  obtain ⟨a, ha, hruns⟩ := hcallable.methods _ _ _ hclass ⟨"area", ⟨0x1030⟩⟩ (by decide) []
  obtain rfl : a = ⟨0x1030⟩ := (Except.ok.inj ha).symm
  exact ⟨hslot, hintact.slots _ _ _ hslot, hruns, hcallable.names _ _ _ (by decide) []⟩

end Dispatched

end HotReload
