import Mathlib
import HotReload.Settings.Environment
import HotReload.Proofs.Trimming

/-! # Overlaying the environment

Each variable is read into a field of its own. What the fields hold afterwards is said field by
field; the overlay succeeds exactly if every value that is there says something of its field, and
otherwise goes as far as the first value that does not.
-/

namespace HotReload.Settings

section Words

/-- The same up to the case of ASCII letters. -/
def SameWord (s t : String) : Prop := s.toList.map Char.toLower = t.toList.map Char.toLower

instance (s t : String) : Decidable (SameWord s t) := inferInstanceAs (Decidable (_ = _))

def flagWords : Bool → List String
  | true => ["1", "true", "yes", "on"]
  | false => ["0", "false", "no", "off"]

/-- One of the words for the flag, up to white space around it and the case of ASCII letters. -/
def SaysFlag (value : String) (b : Bool) : Prop :=
  ∃ lead body trail, Text.Blank lead ∧ Text.Blank trail ∧
    value.toList = lead ++ body.toList ++ trail ∧ ∃ word ∈ flagWords b, SameWord body word

/-- As a flag that may also be left open, it is not. -/
def SaysOpenFlag (value : String) (flag : Option Bool) : Prop :=
  ∃ b, SaysFlag value b ∧ flag = some b

def SaysMode (value : String) (q : QueueMode) : Prop := SameWord value q.name

/-- Any text is a pattern, except that the empty text takes the pattern away. -/
def SaysPattern (value : String) (pattern : Option String) : Prop :=
  pattern = if value = "" then none else some value

theorem isUpper_iff (c : Char) : c.isUpper = true ↔ 'A' ≤ c ∧ c ≤ 'Z' := by
  simp [Char.isUpper, Char.le_def]

theorem toList_lowerAscii (s : String) : (lowerAscii s).toList = s.toList.map Char.toLower := by
  rw [lowerAscii, String.toList_ofList]
  refine List.map_congr_left fun c _ => ?_
  split
  · rename_i h
    rw [Char.toLower_eq_of_isUpper ((isUpper_iff c).2 h)]
  · rename_i h
    rw [Char.toLower_eq_of_not_isUpper (mt (isUpper_iff c).1 h)]

theorem isBlank_of_letter {c : Char} (hlo : 65 ≤ c.toNat) (hhi : c.toNat ≤ 122) :
    Text.isBlank c = false := by
  simp [Text.isBlank, Text.blankRanges]
  omega

/-- White space has no case. -/
theorem isBlank_toLower (c : Char) : Text.isBlank c.toLower = Text.isBlank c := by
  by_cases h : c.isUpper = true
  · have hrange : 65 ≤ c.toNat ∧ c.toNat ≤ 90 := by
      simpa [Char.isUpper, UInt32.le_iff_toNat_le] using h
    have hlower : c.toLower.toNat = c.toNat + 32 := by
      rw [Char.toLower_eq_of_isUpper h, Char.toNat_ofNat, if_pos (by unfold Nat.isValidChar; omega)]
    rw [isBlank_of_letter (by omega) (by omega), isBlank_of_letter (by omega) (by omega)]
  · rw [Char.toLower_eq_of_not_isUpper h]

theorem flagWord?_eq_some_iff {s : String} {b : Bool} :
    flagWord? s = some b ↔ s ∈ flagWords b := by
  fun_cases flagWord? s <;> cases b <;> simp_all [flagWords]

theorem lower_flagWords {b : Bool} {word : String} (h : word ∈ flagWords b) :
    word.toList.map Char.toLower = word.toList ∧ ∀ c ∈ word.toList, Text.isBlank c = false := by
  cases b <;> simp only [flagWords, List.mem_cons, List.not_mem_nil, or_false] at h <;>
    obtain rfl | rfl | rfl | rfl := h
  all_goals exact ⟨by decide, by simp [Text.isBlank, Text.blankRanges]⟩

theorem flag?_eq_some_iff {value : String} {b : Bool} :
    flag? value = some b ↔ SaysFlag value b := by
  rw [flag?, flagWord?_eq_some_iff]
  constructor
  · intro hword
    obtain ⟨lead, trail, hlead, htrail, hsplit⟩ := Text.exists_trimChars value.toList
    refine ⟨lead, Text.trim value, trail, hlead, htrail, ?_, _, hword, ?_⟩
    · rwa [Text.trim, String.toList_ofList]
    · rw [SameWord, toList_lowerAscii, List.map_map]
      exact List.map_congr_left fun c _ => (Char.toLower_toLower_eq_toLower c).symm
  · rintro ⟨lead, body, trail, hlead, htrail, hsplit, word, hword, hsame⟩
    -- no word has white space and lowering takes none away, so trimming stops at the body
    obtain ⟨hlower, hplain⟩ := lower_flagWords hword
    rw [SameWord, hlower] at hsame
    have hbody : ∀ c ∈ body.toList, Text.isBlank c = false := by
      intro c hc
      rw [← isBlank_toLower]
      exact hplain _ (hsame ▸ List.mem_map_of_mem hc)
    have htrim : Text.trim value = body := by
      rw [Text.trim, hsplit, Text.trimChars_surrounded (.of_forall hbody) hlead htrail,
        String.ofList_toList]
    have hread : lowerAscii (Text.trim value) = word := by
      rw [htrim, ← String.toList_inj, toList_lowerAscii, hsame]
    rwa [hread]

theorem queueMode?_eq_some_iff {value : String} {q : QueueMode} :
    queueMode? value = some q ↔ SaysMode value q := by
  have hname (s : String) : QueueMode.ofName? s = some q ↔ s = q.name := by
    fun_cases QueueMode.ofName? s <;> cases q <;> simp_all [QueueMode.name]
  have hlower : q.name.toList.map Char.toLower = q.name.toList := by
    cases q <;> decide
  rw [queueMode?, hname, SaysMode, SameWord, hlower, ← toList_lowerAscii, String.toList_inj]

theorem flag?_eq_none_iff {value : String} : flag? value = none ↔ ¬∃ b, SaysFlag value b := by
  simp only [Option.eq_none_iff_forall_ne_some, ne_eq, flag?_eq_some_iff, not_exists]

theorem queueMode?_eq_none_iff {value : String} :
    queueMode? value = none ↔ ¬∃ q, SaysMode value q := by
  simp only [Option.eq_none_iff_forall_ne_some, ne_eq, queueMode?_eq_some_iff, not_exists]

theorem SaysFlag.unique {value : String} {b c : Bool} (h : SaysFlag value b)
    (h' : SaysFlag value c) : b = c :=
  Option.some.inj ((flag?_eq_some_iff.2 h).symm.trans (flag?_eq_some_iff.2 h'))

theorem SaysOpenFlag.unique {value : String} {a b : Option Bool} (h : SaysOpenFlag value a)
    (h' : SaysOpenFlag value b) : a = b := by
  obtain ⟨_, hflag, rfl⟩ := h
  obtain ⟨_, hflag', rfl⟩ := h'
  rw [hflag.unique hflag']

theorem SaysMode.unique {value : String} {q r : QueueMode} (h : SaysMode value q)
    (h' : SaysMode value r) : q = r :=
  Option.some.inj ((queueMode?_eq_some_iff.2 h).symm.trans (queueMode?_eq_some_iff.2 h'))

theorem SaysPattern.unique {value : String} {p q : Option String} (h : SaysPattern value p)
    (h' : SaysPattern value q) : p = q := Eq.trans h (Eq.symm h')

end Words

section Steps

def Variable.read? (lookup : String → Option String) (v : Variable) (s : Settings) :
    Option Settings :=
  match lookup v.name with
  | none => some s
  | some value => v.set? value s

/-- A field with its variable: it holds what the value of the variable says, or what it held. -/
def Overlays {α : Type} (lookup : String → Option String) (name : String)
    (Says : String → α → Prop) (old new : α) : Prop :=
  match lookup name with
  | none => new = old
  | some value => Says value new

/-- The variable reads its value into one field. -/
structure Variable.Writes {α : Type} (v : Variable) (Says : String → α → Prop)
    (get : Settings → α) (put : α → Settings → Settings) : Prop where
  taken : ∀ {value s t}, v.set? value s = some t → ∃ a, Says value a ∧ t = put a s
  put_get : ∀ s, put (get s) s = s

variable {lookup : String → Option String} {α : Type} {v : Variable} {Says : String → α → Prop}
  {get : Settings → α} {put : α → Settings → Settings} {s t : Settings}

theorem overlays_of_none {name : String} {old new : α} (h : lookup name = none) :
    Overlays lookup name Says old new ↔ new = old := by
  rw [Overlays, h]

theorem overlays_of_some {name value : String} {old new : α} (h : lookup name = some value) :
    Overlays lookup name Says old new ↔ Says value new := by
  rw [Overlays, h]

theorem Overlays.unique {name : String} {old a b : α}
    (hunique : ∀ {value}, Says value a → Says value b → a = b)
    (h : Overlays lookup name Says old a) (h' : Overlays lookup name Says old b) : a = b := by
  cases hvalue : lookup name with
  | none =>
    rw [overlays_of_none hvalue] at h h'
    exact h.trans h'.symm
  | some value =>
    rw [overlays_of_some hvalue] at h h'
    exact hunique h h'

theorem Overlays.self {name : String} {old new : α} (h : Overlays lookup name Says old new) :
    Overlays lookup name Says new new := by
  cases hvalue : lookup name with
  | none => rw [overlays_of_none hvalue]
  | some value =>
    rw [overlays_of_some hvalue] at h ⊢
    exact h

theorem Variable.read?_of_none (h : lookup v.name = none) : v.read? lookup s = some s := by
  rw [read?, h]

theorem Variable.read?_of_some {value : String} (h : lookup v.name = some value) :
    v.read? lookup s = v.set? value s := by
  rw [read?, h]

theorem Variable.read?_eq_none_iff : v.read? lookup s = none ↔
    ∃ value, lookup v.name = some value ∧ v.set? value s = none := by
  cases hvalue : lookup v.name with
  | none => simp [read?_of_none hvalue]
  | some value => simp [read?_of_some hvalue]

theorem overlayWith_cons_of_some {vs : List Variable} (h : v.read? lookup s = some t) :
    overlayWith lookup (v :: vs) s = overlayWith lookup vs t := by
  rw [overlayWith]
  cases hvalue : lookup v.name with
  | none =>
    rw [Variable.read?_of_none hvalue] at h
    rw [Option.some.inj h]
  | some value =>
    rw [Variable.read?_of_some hvalue] at h
    simp only [h]

theorem overlayWith_cons_of_none {vs : List Variable} {value : String}
    (hvalue : lookup v.name = some value) (h : v.set? value s = none) :
    overlayWith lookup (v :: vs) s = (s, .error (.invalidVariable v.name value)) := by
  simp only [overlayWith, hvalue, h]

theorem overlayWith_cons_ok {vs : List Variable} : overlayWith lookup (v :: vs) s = (t, .ok ()) ↔
    ∃ u, v.read? lookup s = some u ∧ overlayWith lookup vs u = (t, .ok ()) := by
  cases hread : v.read? lookup s with
  | some u => simp [overlayWith_cons_of_some hread]
  | none =>
    obtain ⟨value, hvalue, hnone⟩ := Variable.read?_eq_none_iff.1 hread
    simp [overlayWith_cons_of_none hvalue hnone]

/-- A variable whose value is taken settles its field and leaves the rest to the others. -/
theorem Variable.Writes.exists_overlays (hv : v.Writes Says get put) {vs : List Variable}
    (h : overlayWith lookup (v :: vs) s = (t, .ok ())) :
    ∃ a, Overlays lookup v.name Says (get s) a ∧
      overlayWith lookup vs (put a s) = (t, .ok ()) := by
  obtain ⟨u, hread, h⟩ := overlayWith_cons_ok.1 h
  cases hvalue : lookup v.name with
  | none =>
    rw [Variable.read?_of_none hvalue] at hread
    obtain rfl := Option.some.inj hread
    exact ⟨get s, (overlays_of_none hvalue).2 rfl, by rwa [hv.put_get]⟩
  | some value =>
    rw [Variable.read?_of_some hvalue] at hread
    obtain ⟨a, ha, rfl⟩ := hv.taken hread
    exact ⟨a, (overlays_of_some hvalue).2 ha, h⟩

theorem overlayWith_append {earlier : List Variable} (later : List Variable)
    (h : overlayWith lookup earlier s = (t, .ok ())) :
    overlayWith lookup (earlier ++ later) s = overlayWith lookup later t := by
  induction earlier generalizing s with
  | nil =>
    obtain rfl := (Prod.mk.inj h).1
    rfl
  | cons v earlier ih =>
    obtain ⟨u, hu, h⟩ := overlayWith_cons_ok.1 h
    rw [List.cons_append, overlayWith_cons_of_some hu]
    exact ih h

/-- An overlay that fails has taken every value before the first that is not taken. -/
theorem overlayWith_eq_error_iff {vs : List Variable} {e : SettingsFailure} :
    overlayWith lookup vs s = (t, .error e) ↔ ∃ earlier v later value,
      vs = earlier ++ v :: later ∧ overlayWith lookup earlier s = (t, .ok ()) ∧
        lookup v.name = some value ∧ v.set? value t = none ∧
          e = .invalidVariable v.name value := by
  constructor
  · intro h
    induction vs generalizing s with
    | nil => cases h
    | cons v vs ih =>
      cases hread : v.read? lookup s with
      | some u =>
        rw [overlayWith_cons_of_some hread] at h
        obtain ⟨earlier, v', later, value, rfl, hok, hrest⟩ := ih h
        exact ⟨v :: earlier, v', later, value, rfl, overlayWith_cons_ok.2 ⟨u, hread, hok⟩, hrest⟩
      | none =>
        obtain ⟨value, hvalue, hnone⟩ := Variable.read?_eq_none_iff.1 hread
        rw [overlayWith_cons_of_none hvalue hnone] at h
        obtain ⟨rfl, he⟩ := Prod.mk.inj h
        exact ⟨[], v, vs, value, rfl, rfl, hvalue, hnone, (Except.error.inj he).symm⟩
  · rintro ⟨earlier, v, later, value, rfl, hok, hvalue, hnone, rfl⟩
    rw [overlayWith_append _ hok, overlayWith_cons_of_none hvalue hnone]

def only (names : List String) (lookup : String → Option String) (name : String) : Option String :=
  if name ∈ names then lookup name else none

theorem overlayWith_congr {other : String → Option String} {vs : List Variable}
    (h : ∀ v ∈ vs, lookup v.name = other v.name) (s : Settings) :
    overlayWith lookup vs s = overlayWith other vs s := by
  induction vs generalizing s with
  | nil => rfl
  | cons v vs ih =>
    obtain ⟨hv, hvs⟩ := List.forall_mem_cons.1 h
    simp only [overlayWith, hv, ih hvs]

theorem overlayWith_absent {vs : List Variable} (h : ∀ v ∈ vs, lookup v.name = none)
    (s : Settings) : overlayWith lookup vs s = (s, .ok ()) := by
  induction vs with
  | nil => rfl
  | cons v vs ih =>
    obtain ⟨hv, hvs⟩ := List.forall_mem_cons.1 h
    simp only [overlayWith, hv, ih hvs]

theorem overlayWith_append_absent {earlier later : List Variable}
    (h : ∀ v ∈ later, lookup v.name = none) (s : Settings) :
    overlayWith lookup (earlier ++ later) s = overlayWith lookup earlier s := by
  induction earlier generalizing s with
  | nil => exact overlayWith_absent h s
  | cons v earlier ih => simp only [List.cons_append, overlayWith, ih]

/-- Of an environment that is cut down to the first variables, only these are read. -/
theorem overlayWith_only {earlier later : List Variable}
    (hnodup : ((earlier ++ later).map (·.name)).Nodup) (s : Settings) :
    overlayWith (only (earlier.map (·.name)) lookup) (earlier ++ later) s =
      overlayWith lookup earlier s := by
  rw [List.map_append, List.nodup_append] at hnodup
  obtain ⟨_, _, hdistinct⟩ := hnodup
  have hlater : ∀ v ∈ later, only (earlier.map (·.name)) lookup v.name = none := by
    intro v hv
    exact if_neg fun hname => hdistinct _ hname _ (List.mem_map_of_mem hv) rfl
  have hearlier : ∀ v ∈ earlier, only (earlier.map (·.name)) lookup v.name = lookup v.name :=
    fun v hv => if_pos (List.mem_map_of_mem hv)
  rw [overlayWith_append_absent hlater, overlayWith_congr hearlier]

end Steps

def order : List String :=
  ["LIVEPATCH_GENERICS", "LIVEPATCH_KEYPATHS", "LIVEPATCH_VERBOSE", "LIVEPATCH_BENCHMARK",
    "LIVEPATCH_EXCLUDE", "LIVEPATCH_PRESERVE_STATICS", "LIVEPATCH_TESTS", "LIVEPATCH_QUEUE"]

def flags : List String :=
  ["LIVEPATCH_GENERICS", "LIVEPATCH_KEYPATHS", "LIVEPATCH_VERBOSE", "LIVEPATCH_BENCHMARK",
    "LIVEPATCH_PRESERVE_STATICS", "LIVEPATCH_TESTS"]

/-- A value that its variable takes: a flag where one is due, and a mode for the queue. -/
def Acceptable (name value : String) : Prop :=
  (name ∈ flags → ∃ b, SaysFlag value b) ∧ (name = "LIVEPATCH_QUEUE" → ∃ q, SaysMode value q)

/-- Each field that has a variable follows it, and the others are kept. -/
structure Overlaid (lookup : String → Option String) (s t : Settings) : Prop where
  patchGenerics : Overlays lookup "LIVEPATCH_GENERICS" SaysFlag s.patchGenerics t.patchGenerics
  keyPaths : Overlays lookup "LIVEPATCH_KEYPATHS" SaysOpenFlag s.keyPaths t.keyPaths
  verbose : Overlays lookup "LIVEPATCH_VERBOSE" SaysFlag s.verbose t.verbose
  benchmark : Overlays lookup "LIVEPATCH_BENCHMARK" SaysFlag s.benchmark t.benchmark
  exclusion : Overlays lookup "LIVEPATCH_EXCLUDE" SaysPattern s.exclusion t.exclusion
  preserveStatics :
    Overlays lookup "LIVEPATCH_PRESERVE_STATICS" SaysFlag s.preserveStatics t.preserveStatics
  runTestCases : Overlays lookup "LIVEPATCH_TESTS" SaysFlag s.runTestCases t.runTestCases
  queue : Overlays lookup "LIVEPATCH_QUEUE" SaysMode s.queue t.queue
  lifecycleHook : t.lifecycleHook = s.lifecycleHook
  frameworkRoots : t.frameworkRoots = s.frameworkRoots
  keyPathMarker : t.keyPathMarker = s.keyPathMarker
  testEntry : t.testEntry = s.testEntry

section Fields

variable {lookup : String → Option String} {s t u : Settings} {name : String}

theorem flag_writes (get : Settings → Bool) {put : Bool → Settings → Settings}
    (hput : ∀ s, put (get s) s = s) : Variable.Writes
      ⟨name, fun value s => (flag? value).map fun b => put b s⟩ SaysFlag get put where
  taken h := by
    simp only [Option.map_eq_some_iff, flag?_eq_some_iff] at h
    obtain ⟨b, hb, rfl⟩ := h
    exact ⟨b, hb, rfl⟩
  put_get := hput

theorem keyPaths_writes : Variable.Writes
    ⟨name, fun value s => (flag? value).map fun b => { s with keyPaths := some b }⟩
    SaysOpenFlag (·.keyPaths) (fun k s => { s with keyPaths := k }) where
  taken h := by
    simp only [Option.map_eq_some_iff, flag?_eq_some_iff] at h
    obtain ⟨b, hb, rfl⟩ := h
    exact ⟨some b, ⟨b, hb, rfl⟩, rfl⟩
  put_get _ := rfl

theorem exclusion_writes : Variable.Writes
    ⟨name, fun value s => some { s with exclusion := if value.isEmpty then none else some value }⟩
    SaysPattern (·.exclusion) (fun p s => { s with exclusion := p }) where
  taken {value s t} h := ⟨_, by simp [SaysPattern], (Option.some.inj h).symm⟩
  put_get _ := rfl

theorem queue_writes : Variable.Writes
    ⟨name, fun value s => (queueMode? value).map fun q => { s with queue := q }⟩
    SaysMode (·.queue) (fun q s => { s with queue := q }) where
  taken h := by
    simp only [Option.map_eq_some_iff, queueMode?_eq_some_iff] at h
    obtain ⟨q, hq, rfl⟩ := h
    exact ⟨q, hq, rfl⟩
  put_get _ := rfl

namespace Overlaid

/-- The variables one after another, each with its field. -/
theorem of_ok (h : overlay lookup s = (t, .ok ())) : Overlaid lookup s t := by
  obtain ⟨_, hgenerics, h⟩ := (flag_writes (·.patchGenerics) fun _ => by rfl).exists_overlays h
  obtain ⟨_, hkeyPaths, h⟩ := keyPaths_writes.exists_overlays h
  obtain ⟨_, hverbose, h⟩ := (flag_writes (·.verbose) fun _ => by rfl).exists_overlays h
  obtain ⟨_, hbenchmark, h⟩ := (flag_writes (·.benchmark) fun _ => by rfl).exists_overlays h
  obtain ⟨_, hexclusion, h⟩ := exclusion_writes.exists_overlays h
  obtain ⟨_, hpreserve, h⟩ := (flag_writes (·.preserveStatics) fun _ => by rfl).exists_overlays h
  obtain ⟨_, htests, h⟩ := (flag_writes (·.runTestCases) fun _ => by rfl).exists_overlays h
  obtain ⟨_, hqueue, h⟩ := queue_writes.exists_overlays h
  obtain rfl := (Prod.mk.inj h).1
  exact ⟨hgenerics, hkeyPaths, hverbose, hbenchmark, hexclusion, hpreserve, htests, hqueue,
    rfl, rfl, rfl, rfl⟩

/-- The variables and the settings before determine the settings after. -/
theorem unique (h : Overlaid lookup s t) (h' : Overlaid lookup s u) : t = u := by
  cases t
  cases u
  rw [mk.injEq]
  exact ⟨h.patchGenerics.unique SaysFlag.unique h'.patchGenerics,
    h.keyPaths.unique SaysOpenFlag.unique h'.keyPaths, h.verbose.unique SaysFlag.unique h'.verbose,
    h.benchmark.unique SaysFlag.unique h'.benchmark,
    h.exclusion.unique SaysPattern.unique h'.exclusion,
    h.preserveStatics.unique SaysFlag.unique h'.preserveStatics,
    h.lifecycleHook.trans h'.lifecycleHook.symm, h.frameworkRoots.trans h'.frameworkRoots.symm,
    h.keyPathMarker.trans h'.keyPathMarker.symm,
    h.runTestCases.unique SaysFlag.unique h'.runTestCases, h.testEntry.trans h'.testEntry.symm,
    h.queue.unique SaysMode.unique h'.queue⟩

theorem self (h : Overlaid lookup s t) : Overlaid lookup t t :=
  ⟨h.patchGenerics.self, h.keyPaths.self, h.verbose.self, h.benchmark.self, h.exclusion.self,
    h.preserveStatics.self, h.runTestCases.self, h.queue.self, rfl, rfl, rfl, rfl⟩

theorem acceptable (h : Overlaid lookup s t) {name value : String}
    (hvalue : lookup name = some value) : Acceptable name value := by
  constructor
  · intro hflag
    simp only [flags, List.mem_cons, List.not_mem_nil, or_false] at hflag
    obtain rfl | rfl | rfl | rfl | rfl | rfl := hflag
    · exact ⟨_, (overlays_of_some hvalue).1 h.patchGenerics⟩
    · obtain ⟨b, hb, _⟩ := (overlays_of_some hvalue).1 h.keyPaths
      exact ⟨b, hb⟩
    · exact ⟨_, (overlays_of_some hvalue).1 h.verbose⟩
    · exact ⟨_, (overlays_of_some hvalue).1 h.benchmark⟩
    · exact ⟨_, (overlays_of_some hvalue).1 h.preserveStatics⟩
    · exact ⟨_, (overlays_of_some hvalue).1 h.runTestCases⟩
  · rintro rfl
    exact ⟨_, (overlays_of_some hvalue).1 h.queue⟩

end Overlaid

theorem set?_eq_none_iff {v : Variable} (hv : v ∈ Variable.all) (value : String) (s : Settings) :
    v.set? value s = none ↔ ¬Acceptable v.name value := by
  simp only [Variable.all, List.mem_cons, List.not_mem_nil, or_false] at hv
  obtain rfl | rfl | rfl | rfl | rfl | rfl | rfl | rfl := hv
  all_goals
    simp [Acceptable, flags, flag?_eq_none_iff, queueMode?_eq_none_iff]

theorem names_all : Variable.all.map (·.name) = order := rfl

theorem nodup_order : order.Nodup := by decide

theorem overlay_eq_ok_iff : overlay lookup s = (t, .ok ()) ↔ Overlaid lookup s t := by
  refine ⟨.of_ok, fun h => ?_⟩
  rcases hresult : overlay lookup s with ⟨u, result⟩
  cases result with
  | ok => rw [h.unique (.of_ok hresult)]
  | error e =>
    obtain ⟨earlier, v, later, value, hall, _, hvalue, hnone, _⟩ :=
      overlayWith_eq_error_iff.1 hresult
    have hv : v ∈ Variable.all := by simp [hall]
    exact absurd (h.acceptable hvalue) ((set?_eq_none_iff hv value u).1 hnone)

theorem overlay_only {earlier later : List Variable} (hall : Variable.all = earlier ++ later) :
    overlay (only (earlier.map (·.name)) lookup) s = overlayWith lookup earlier s := by
  have hnodup : ((earlier ++ later).map (·.name)).Nodup := by
    rw [← hall, names_all]
    exact nodup_order
  rw [overlay, hall, overlayWith_only hnodup]

/-- A failure names the first variable that does not take its value; the variables before it are
overlaid as if there were no others. -/
theorem overlay_eq_error_iff {e : SettingsFailure} : overlay lookup s = (t, .error e) ↔
    ∃ earlier name later value, order = earlier ++ name :: later ∧
      (∀ n ∈ earlier, ∀ v, lookup n = some v → Acceptable n v) ∧
      Overlaid (only earlier lookup) s t ∧ lookup name = some value ∧ ¬Acceptable name value ∧
        e = .invalidVariable name value := by
  rw [overlay, overlayWith_eq_error_iff]
  constructor
  · rintro ⟨earlier, v, later, value, hall, hok, hvalue, hnone, rfl⟩
    have hv : v ∈ Variable.all := by simp [hall]
    -- cut down to the variables before, the environment is one that succeeds
    have hfields : Overlaid (only (earlier.map (·.name)) lookup) s t :=
      .of_ok ((overlay_only hall).trans hok)
    refine ⟨earlier.map (·.name), v.name, later.map (·.name), value, ?_, fun n hn v hlookup => ?_,
      hfields, hvalue, (set?_eq_none_iff hv value t).1 hnone, rfl⟩
    · rw [← names_all, hall, List.map_append, List.map_cons]
    · exact hfields.acceptable ((if_pos hn).trans hlookup)
  · rintro ⟨earlier, name, later, value, horder, _, hfields, hvalue, hrefused, rfl⟩
    obtain ⟨vs, ws, hall, rfl, hws⟩ := List.map_eq_append_iff.1 (names_all.trans horder)
    obtain ⟨v, rest, rfl, rfl, rfl⟩ := List.map_eq_cons_iff.1 hws
    have hv : v ∈ Variable.all := by simp [hall]
    exact ⟨vs, v, rest, value, hall, (overlay_only hall).symm.trans (overlay_eq_ok_iff.2 hfields),
      hvalue, (set?_eq_none_iff hv value t).2 hrefused, rfl⟩

/-- The overlay succeeds exactly if every value that is there is acceptable, and then each field
follows its own variable. Otherwise it fails with the first variable whose value is not acceptable,
and only the fields of the variables before it have changed. Overlaid once more, all of it stays. -/
theorem overlay_fieldwise (lookup : String → Option String) (s : Settings) :
    ((overlay lookup s).2 = .ok () ↔
      ∀ name ∈ order, ∀ value, lookup name = some value → Acceptable name value) ∧
    (∀ t, overlay lookup s = (t, .ok ()) ↔ Overlaid lookup s t) ∧
    (∀ t e, overlay lookup s = (t, .error e) ↔
      ∃ earlier name later value, order = earlier ++ name :: later ∧
        (∀ n ∈ earlier, ∀ v, lookup n = some v → Acceptable n v) ∧
        Overlaid (only earlier lookup) s t ∧ lookup name = some value ∧ ¬Acceptable name value ∧
          e = .invalidVariable name value) ∧
    overlay lookup (overlay lookup s).1 = overlay lookup s := by
  refine ⟨?_, fun t => overlay_eq_ok_iff, fun t e => overlay_eq_error_iff, ?_⟩
  · rcases hresult : overlay lookup s with ⟨t, result⟩
    cases result with
    | ok => exact iff_of_true rfl fun name _ value => (Overlaid.of_ok hresult).acceptable
    | error e =>
      obtain ⟨earlier, name, later, value, horder, _, _, hvalue, hrefused, _⟩ :=
        overlay_eq_error_iff.1 hresult
      refine iff_of_false nofun fun hall => hrefused (hall name ?_ value hvalue)
      simp [horder]
  · rcases hresult : overlay lookup s with ⟨t, result⟩
    cases result with
    | ok => exact overlay_eq_ok_iff.2 (Overlaid.of_ok hresult).self
    | error e =>
      obtain ⟨earlier, name, later, value, horder, htaken, hfields, hrest⟩ :=
        overlay_eq_error_iff.1 hresult
      exact overlay_eq_error_iff.2
        ⟨earlier, name, later, value, horder, htaken, hfields.self, hrest⟩

end Fields

/-- A flag among white space, no pattern, and a mode among white space. -/
def spacious (name : String) : Option String :=
  [("LIVEPATCH_GENERICS", "\u00a0OFF\t"), ("LIVEPATCH_EXCLUDE", ""), ("LIVEPATCH_TESTS", "No"),
    ("LIVEPATCH_QUEUE", " main")].lookup name

theorem overlay_fieldwise_spacious : overlay spacious { exclusion := some "Cache$" } =
    ({ patchGenerics := false, runTestCases := false },
      .error (.invalidVariable "LIVEPATCH_QUEUE" " main")) := by
  obtain ⟨_, _, hfailure, _⟩ := overlay_fieldwise spacious { exclusion := some "Cache$" }
  have hoff : SaysFlag "\u00a0OFF\t" false := flag?_eq_some_iff.1 (by decide)
  have hno : SaysFlag "No" false := flag?_eq_some_iff.1 (by decide)
  have hfields : Overlaid (only order.dropLast spacious) { exclusion := some "Cache$" }
      { patchGenerics := false, runTestCases := false } := by
    constructor
    case patchGenerics => exact hoff
    case runTestCases => exact hno
    all_goals rfl
  refine (hfailure _ _).2 ⟨order.dropLast, "LIVEPATCH_QUEUE", [], " main", rfl,
    fun n hn v hv => hfields.acceptable ((if_pos hn).trans hv), hfields, rfl, ?_, rfl⟩
  rintro ⟨_, hmode⟩
  obtain ⟨q, hq⟩ := hmode rfl
  unfold SaysMode at hq
  cases q <;> exact absurd hq (by decide)

end HotReload.Settings
