import HotReload.Text.Basic
import Mathlib.Data.List.Basic

/-! # Well-formed text

The reader takes apart what the encoding of characters puts together. So bytes are a text exactly if
they are the encoding of its characters.
-/

namespace HotReload.Text.Utf8

theorem piecesFrom_cons (s : State) (b : UInt8) (rest : List UInt8) :
    piecesFrom s (b :: rest) = (step s b).1 ++ piecesFrom (step s b).2 rest := by
  cases s <;> rfl

/-- The bytes that a reader inside a character needs to come to its end. -/
inductive Completes : State → List UInt8 → Char → Prop where
  | last {read value lo hi b c} : lo ≤ b → b ≤ hi →
      c = Char.ofNat (value * 64 + (b.toNat - 0x80)) → Completes (.inside read value lo hi 0) [b] c
  | more {read value lo hi n b rest c} : lo ≤ b → b ≤ hi →
      Completes (.inside (read ++ [b]) (value * 64 + (b.toNat - 0x80)) 0x80 0xBF n) rest c →
      Completes (.inside read value lo hi (n + 1)) (b :: rest) c

theorem Completes.piecesFrom_append {s : State} {t : List UInt8} {c : Char} (h : Completes s t c)
    (rest : List UInt8) : piecesFrom s (t ++ rest) = .char c :: piecesFrom .idle rest := by
  induction h with
  | last hlo hhi hc =>
    rw [List.singleton_append, piecesFrom_cons, step, if_pos ⟨hlo, hhi⟩, hc]
    rfl
  | more hlo hhi _ ih =>
    rw [List.cons_append, piecesFrom_cons, step, if_pos ⟨hlo, hhi⟩]
    exact ih

/-- A reader inside a character that comes to its end has read what it needs. -/
theorem exists_completes {read : List UInt8} {value : Nat} {lo hi : UInt8} {n : Nat}
    {bytes : List UInt8} {c : Char} {ps : List Piece}
    (h : piecesFrom (.inside read value lo hi n) bytes = .char c :: ps) :
    ∃ t rest, bytes = t ++ rest ∧ Completes (.inside read value lo hi n) t c ∧
      piecesFrom .idle rest = ps := by
  induction bytes generalizing read value lo hi n with
  | nil => cases h
  | cons b bytes ih =>
    rw [piecesFrom_cons, step] at h
    split at h
    · rename_i hb
      cases n with
      | zero =>
        obtain ⟨hc, hps⟩ := List.cons.inj h
        exact ⟨[b], bytes, rfl, .last hb.1 hb.2 (Piece.char.inj hc).symm, hps⟩
      | succ n =>
        obtain ⟨t, rest, rfl, ht, hps⟩ := ih h
        exact ⟨b :: t, rest, rfl, .more hb.1 hb.2 ht, hps⟩
    · cases h

/-- A character of a valid number has that number. -/
theorem toNat_ofNat {n : Nat} (h : n.isValidChar) : (Char.ofNat n).toNat = n := by
  rw [Char.ofNat, dif_pos h]
  rfl

theorem utf8EncodeChar_eq (c : Char) : String.utf8EncodeChar c =
    if c.toNat ≤ 0x7F then [UInt8.ofNat c.toNat]
    else if c.toNat ≤ 0x7FF then
      [UInt8.ofNat (c.toNat / 64 + 0xC0), UInt8.ofNat (c.toNat % 64 + 0x80)]
    else if c.toNat ≤ 0xFFFF then
      [UInt8.ofNat (c.toNat / 4096 + 0xE0), UInt8.ofNat (c.toNat / 64 % 64 + 0x80),
        UInt8.ofNat (c.toNat % 64 + 0x80)]
    else
      [UInt8.ofNat (c.toNat / 262144 + 0xF0), UInt8.ofNat (c.toNat / 4096 % 64 + 0x80),
        UInt8.ofNat (c.toNat / 64 % 64 + 0x80), UInt8.ofNat (c.toNat % 64 + 0x80)] := by
  have hvalid : c.val.toNat < 0xD800 ∨ 0xDFFF < c.val.toNat ∧ c.val.toNat < 0x110000 := c.valid
  unfold String.utf8EncodeChar Char.toNat
  refine ite_congr rfl (fun _ => rfl) fun _ => ite_congr rfl (fun h => ?_) fun _ =>
    ite_congr rfl (fun h => ?_) fun _ => ?_
  · rw [Nat.mod_eq_of_lt (by omega : c.val.toNat / 64 < 0x20)]
  · rw [Nat.mod_eq_of_lt (by omega : c.val.toNat / 4096 < 0x10)]
  · rw [Nat.mod_eq_of_lt (by omega : c.val.toNat / 262144 < 0x08)]

theorem ofNat_eq_iff {n : Nat} (h : n < 256) {b : UInt8} : UInt8.ofNat n = b ↔ b.toNat = n := by
  rw [← UInt8.toNat_inj, UInt8.toNat_ofNat', Nat.mod_eq_of_lt h, eq_comm]

theorem first_of_lt {b : UInt8} (h : b.toNat < 0x80) :
    first b = .inl (.char (Char.ofNat b.toNat)) := by
  simp only [first, if_pos h]

theorem first_of_two {b : UInt8} (hlo : 0xC2 ≤ b.toNat) (hhi : b.toNat ≤ 0xDF) :
    first b = .inr (.inside [b] (b.toNat - 0xC0) 0x80 0xBF 0) := by
  simp only [first]
  rw [if_neg (by omega), if_pos ⟨hlo, hhi⟩]

/-- What may come second of three bytes depends on the first one. -/
theorem first_of_three {b : UInt8} (hlo : 0xE0 ≤ b.toNat) (hhi : b.toNat ≤ 0xEF) :
    first b = .inr (.inside [b] (b.toNat - 0xE0) (if b.toNat = 0xE0 then 0xA0 else 0x80)
      (if b.toNat = 0xED then 0x9F else 0xBF) 1) := by
  simp only [first]
  rw [if_neg (by omega), if_neg (by omega)]
  split
  · rename_i h
    simp [h]
  · split
    · rename_i h
      simp [h]
    · rw [if_pos (by omega)]

/-- What may come second of four bytes depends on the first one. -/
theorem first_of_four {b : UInt8} (hlo : 0xF0 ≤ b.toNat) (hhi : b.toNat ≤ 0xF4) :
    first b = .inr (.inside [b] (b.toNat - 0xF0) (if b.toNat = 0xF0 then 0x90 else 0x80)
      (if b.toNat = 0xF4 then 0x8F else 0xBF) 2) := by
  simp only [first]
  rw [if_neg (by omega), if_neg (by omega), if_neg (by omega), if_neg (by omega), if_neg (by omega)]
  split
  · rename_i h
    simp [h]
  · split
    · rw [if_neg (by omega)]
    · rename_i h
      have h4 : b.toNat = 0xF4 := by omega
      simp [h4]

/-- A byte that begins a character of more than one byte. -/
theorem first_eq_inr {b : UInt8} {s : State} (h : first b = .inr s) :
    0xC2 ≤ b.toNat ∧ b.toNat ≤ 0xF4 ∧ ∃ value lo hi n, s = .inside [b] value lo hi n := by
  simp only [first] at h
  split_ifs at h <;> cases h <;> exact ⟨by omega, by omega, _, _, _, _, rfl⟩

theorem first_eq_char {b : UInt8} {c : Char} (h : first b = .inl (.char c)) :
    b.toNat < 0x80 ∧ c = Char.ofNat b.toNat := by
  by_cases hb : b.toNat < 0x80
  · rw [first_of_lt hb] at h
    cases h
    exact ⟨hb, rfl⟩
  · simp only [first] at h
    split_ifs at h
    cases h

section Encoding

variable {read : List UInt8} {value n : Nat} {lo hi b x y z : UInt8} {t : List UInt8} {c : Char}

theorem between_iff : lo ≤ x ∧ x ≤ hi ↔ lo.toNat ≤ x.toNat ∧ x.toNat ≤ hi.toNat := by
  rw [UInt8.le_iff_toNat_le, UInt8.le_iff_toNat_le]

theorem tail_between : 0x80 ≤ x ∧ x ≤ 0xBF ↔ 0x80 ≤ x.toNat ∧ x.toNat ≤ 0xBF := between_iff

theorem valid_toNat (c : Char) : c.toNat < 0xD800 ∨ 0xDFFF < c.toNat ∧ c.toNat < 0x110000 := c.valid

theorem Completes.of_last (hx : lo ≤ x ∧ x ≤ hi) (hc : value * 64 + (x.toNat - 0x80) = c.toNat) :
    Completes (.inside read value lo hi 0) [x] c := by
  refine .last hx.1 hx.2 ?_
  rw [hc, Char.ofNat_toNat]

/-- The second byte of three is in the range that the first one asks for. -/
theorem second_of_three_iff :
    (if b.toNat = 0xE0 then 0xA0 else 0x80) ≤ x ∧ x ≤ (if b.toNat = 0xED then 0x9F else 0xBF) ↔
      0x80 ≤ x.toNat ∧ x.toNat ≤ 0xBF ∧ (b.toNat = 0xE0 → 0xA0 ≤ x.toNat) ∧
        (b.toNat = 0xED → x.toNat ≤ 0x9F) := by
  rw [between_iff]
  split <;> split <;> simp <;> omega

/-- The second byte of four is in the range that the first one asks for. -/
theorem second_of_four_iff :
    (if b.toNat = 0xF0 then 0x90 else 0x80) ≤ x ∧ x ≤ (if b.toNat = 0xF4 then 0x8F else 0xBF) ↔
      0x80 ≤ x.toNat ∧ x.toNat ≤ 0xBF ∧ (b.toNat = 0xF0 → 0x90 ≤ x.toNat) ∧
        (b.toNat = 0xF4 → x.toNat ≤ 0x8F) := by
  rw [between_iff]
  split <;> split <;> simp <;> omega

theorem completes_of_two (h : 0x7F < c.toNat ∧ c.toNat ≤ 0x7FF)
    (hb : b.toNat = c.toNat / 64 + 0xC0) (hx : x.toNat = c.toNat % 64 + 0x80) :
    ∃ s, first b = .inr s ∧ Completes s [x] c :=
  ⟨_, first_of_two (by omega) (by omega), .of_last (tail_between.2 (by omega)) (by omega)⟩

theorem completes_of_three (h : 0x7FF < c.toNat ∧ c.toNat ≤ 0xFFFF)
    (hb : b.toNat = c.toNat / 4096 + 0xE0) (hx : x.toNat = c.toNat / 64 % 64 + 0x80)
    (hy : y.toNat = c.toNat % 64 + 0x80) : ∃ s, first b = .inr s ∧ Completes s [x, y] c := by
  have hvalid := valid_toNat c
  have hsecond := second_of_three_iff (b := b) (x := x).2 (by omega)
  exact ⟨_, first_of_three (by omega) (by omega), .more hsecond.1 hsecond.2
    (.of_last (tail_between (x := y).2 (by omega)) (by omega))⟩

theorem completes_of_four (h : 0xFFFF < c.toNat) (hb : b.toNat = c.toNat / 262144 + 0xF0)
    (hx : x.toNat = c.toNat / 4096 % 64 + 0x80) (hy : y.toNat = c.toNat / 64 % 64 + 0x80)
    (hz : z.toNat = c.toNat % 64 + 0x80) :
    ∃ s, first b = .inr s ∧ Completes s [x, y, z] c := by
  have hvalid := valid_toNat c
  have hsecond := second_of_four_iff (b := b) (x := x).2 (by omega)
  have hthird := tail_between (x := y).2 (by omega)
  exact ⟨_, first_of_four (by omega) (by omega), .more hsecond.1 hsecond.2 (.more hthird.1 hthird.2
    (.of_last (tail_between (x := z).2 (by omega)) (by omega)))⟩

/-- The first byte of an encoding and the rest of it are read as its character. -/
theorem first_of_encoded (h : String.utf8EncodeChar c = b :: t) :
    first b = .inl (.char c) ∧ t = [] ∨ ∃ s, first b = .inr s ∧ Completes s t c := by
  have hvalid := valid_toNat c
  have htail (n : Nat) : (UInt8.ofNat (n % 64 + 0x80)).toNat = n % 64 + 0x80 :=
    (ofNat_eq_iff (by omega)).1 rfl
  rw [utf8EncodeChar_eq] at h
  split at h
  · obtain ⟨hb, rfl⟩ := List.cons.inj h
    rw [ofNat_eq_iff (by omega)] at hb
    refine .inl ⟨?_, rfl⟩
    rw [first_of_lt (by omega), hb, Char.ofNat_toNat]
  all_goals right
  split at h
  · obtain ⟨hb, rfl⟩ := List.cons.inj h
    exact completes_of_two (by omega) ((ofNat_eq_iff (by omega)).1 hb) (htail _)
  split at h
  · obtain ⟨hb, rfl⟩ := List.cons.inj h
    exact completes_of_three (by omega) ((ofNat_eq_iff (by omega)).1 hb) (htail _) (htail _)
  · obtain ⟨hb, rfl⟩ := List.cons.inj h
    exact completes_of_four (by omega) ((ofNat_eq_iff (by omega)).1 hb) (htail _) (htail _)
      (htail _)

theorem encoded_of_one (h : b.toNat < 0x80) :
    String.utf8EncodeChar (Char.ofNat b.toNat) = [b] := by
  have hn := toNat_ofNat (n := b.toNat) (by simp only [Nat.isValidChar]; omega)
  rw [utf8EncodeChar_eq, if_pos (by omega), hn, UInt8.ofNat_toNat]

theorem encoded_of_two (hb : 0xC2 ≤ b.toNat ∧ b.toNat ≤ 0xDF)
    (h : Completes (.inside [b] (b.toNat - 0xC0) 0x80 0xBF 0) t c) :
    String.utf8EncodeChar c = b :: t := by
  cases h with
  | last hxlo hxhi hc =>
    have hx := tail_between.1 ⟨hxlo, hxhi⟩
    have hn := hc ▸ toNat_ofNat (by simp only [Nat.isValidChar]; omega)
    rw [utf8EncodeChar_eq, if_neg (by omega), if_pos (by omega)]
    simp only [List.cons.injEq, and_true]
    exact ⟨(ofNat_eq_iff (by omega)).2 (by omega), (ofNat_eq_iff (by omega)).2 (by omega)⟩

theorem encoded_of_three (hb : 0xE0 ≤ b.toNat ∧ b.toNat ≤ 0xEF)
    (h : Completes (.inside [b] (b.toNat - 0xE0) (if b.toNat = 0xE0 then 0xA0 else 0x80)
      (if b.toNat = 0xED then 0x9F else 0xBF) 1) t c) : String.utf8EncodeChar c = b :: t := by
  cases h with
  | more hxlo hxhi h =>
    cases h with
    | last hylo hyhi hc =>
      have hx := second_of_three_iff.1 ⟨hxlo, hxhi⟩
      have hy := tail_between.1 ⟨hylo, hyhi⟩
      have hn := hc ▸ toNat_ofNat (by simp only [Nat.isValidChar]; omega)
      rw [utf8EncodeChar_eq, if_neg (by omega), if_neg (by omega), if_pos (by omega)]
      simp only [List.cons.injEq, and_true]
      exact ⟨(ofNat_eq_iff (by omega)).2 (by omega), (ofNat_eq_iff (by omega)).2 (by omega),
        (ofNat_eq_iff (by omega)).2 (by omega)⟩

theorem encoded_of_four (hb : 0xF0 ≤ b.toNat ∧ b.toNat ≤ 0xF4)
    (h : Completes (.inside [b] (b.toNat - 0xF0) (if b.toNat = 0xF0 then 0x90 else 0x80)
      (if b.toNat = 0xF4 then 0x8F else 0xBF) 2) t c) : String.utf8EncodeChar c = b :: t := by
  cases h with
  | more hxlo hxhi h =>
    cases h with
    | more hylo hyhi h =>
      cases h with
      | last hzlo hzhi hc =>
        have hx := second_of_four_iff.1 ⟨hxlo, hxhi⟩
        have hy := tail_between.1 ⟨hylo, hyhi⟩
        have hz := tail_between.1 ⟨hzlo, hzhi⟩
        have hn := hc ▸ toNat_ofNat (by simp only [Nat.isValidChar]; omega)
        rw [utf8EncodeChar_eq, if_neg (by omega), if_neg (by omega), if_neg (by omega)]
        simp only [List.cons.injEq, and_true]
        exact ⟨(ofNat_eq_iff (by omega)).2 (by omega), (ofNat_eq_iff (by omega)).2 (by omega),
          (ofNat_eq_iff (by omega)).2 (by omega), (ofNat_eq_iff (by omega)).2 (by omega)⟩

/-- A first byte and the bytes that complete it are an encoding. -/
theorem encoded_of_completes {s : State} (h : first b = .inr s) (ht : Completes s t c) :
    String.utf8EncodeChar c = b :: t := by
  obtain ⟨hlo, hhi, _⟩ := first_eq_inr h
  by_cases htwo : b.toNat ≤ 0xDF
  · rw [first_of_two hlo htwo] at h
    cases h
    exact encoded_of_two ⟨hlo, htwo⟩ ht
  by_cases hthree : b.toNat ≤ 0xEF
  · rw [first_of_three (by omega) hthree] at h
    cases h
    exact encoded_of_three (by omega) ht
  · rw [first_of_four (by omega) hhi] at h
    cases h
    exact encoded_of_four (by omega) ht

end Encoding

section Reading

variable {bytes : List UInt8} {c : Char} {ps : List Piece}

theorem piecesFrom_idle_cons (b : UInt8) (bytes : List UInt8) : piecesFrom .idle (b :: bytes) =
    match first b with
    | .inl p => p :: piecesFrom .idle bytes
    | .inr s => piecesFrom s bytes := by
  rw [piecesFrom_cons, step, start]
  cases first b <;> rfl

/-- A character is what the reader comes to on its encoding, and on nothing else. -/
theorem piecesFrom_idle_eq_char_iff : piecesFrom .idle bytes = .char c :: ps ↔
    ∃ rest, bytes = String.utf8EncodeChar c ++ rest ∧ piecesFrom .idle rest = ps := by
  constructor
  · intro h
    cases bytes with
    | nil => cases h
    | cons b bytes =>
      rw [piecesFrom_idle_cons] at h
      split at h
      · rename_i p hp
        obtain ⟨rfl, hps⟩ := List.cons.inj h
        obtain ⟨hb, rfl⟩ := first_eq_char hp
        exact ⟨bytes, by rw [encoded_of_one hb, List.singleton_append], hps⟩
      · rename_i s hs
        obtain ⟨_, _, value, lo, hi, n, rfl⟩ := first_eq_inr hs
        obtain ⟨t, rest, rfl, ht, hps⟩ := exists_completes h
        exact ⟨rest, by rw [encoded_of_completes hs ht, List.cons_append], hps⟩
  · rintro ⟨rest, rfl, rfl⟩
    obtain ⟨b, t, hbt⟩ := List.exists_cons_of_ne_nil (String.utf8EncodeChar_ne_nil (c := c))
    rw [hbt, List.cons_append, piecesFrom_idle_cons]
    obtain ⟨hb, rfl⟩ | ⟨s, hs, ht⟩ := first_of_encoded hbt
    · rw [hb]
      rfl
    · rw [hs]
      exact ht.piecesFrom_append rest

theorem piecesFrom_inside_ne_nil (read : List UInt8) (value : Nat) (lo hi : UInt8) (n : Nat) :
    piecesFrom (.inside read value lo hi n) bytes ≠ [] := by
  induction bytes generalizing read value lo hi n with
  | nil => exact List.cons_ne_nil _ _
  | cons b bytes ih =>
    rw [piecesFrom_cons, step]
    split
    · cases n with
      | zero => exact List.cons_ne_nil _ _
      | succ n => exact ih _ _ _ _ n
    · exact List.cons_ne_nil _ _

theorem pieces_eq_nil_iff : pieces bytes = [] ↔ bytes = [] := by
  cases bytes with
  | nil => exact iff_of_true rfl rfl
  | cons b bytes =>
    refine iff_of_false (fun h => ?_) (List.cons_ne_nil _ _)
    rw [pieces, piecesFrom_idle_cons] at h
    split at h
    · cases h
    · rename_i s hs
      obtain ⟨_, _, value, lo, hi, n, rfl⟩ := first_eq_inr hs
      exact piecesFrom_inside_ne_nil _ value lo hi n h

theorem pieces_eq_map_char_iff {cs : List Char} :
    pieces bytes = cs.map .char ↔ bytes = cs.flatMap String.utf8EncodeChar := by
  induction cs generalizing bytes with
  | nil => exact pieces_eq_nil_iff
  | cons c cs ih =>
    rw [pieces, List.map_cons, piecesFrom_idle_eq_char_iff, List.flatMap_cons]
    constructor
    · rintro ⟨rest, rfl, hrest⟩
      rw [ih.1 hrest]
    · rintro rfl
      exact ⟨_, rfl, ih.2 rfl⟩

theorem mapM_char_eq_some_iff {cs : List Char} :
    (ps.mapM fun
      | .char c => some c
      | .broken _ => none) = some cs ↔ ps = cs.map .char := by
  induction ps generalizing cs with
  | nil => cases cs <;> simp
  | cons p ps ih =>
    cases p with
    | char c =>
      cases cs with
      | nil => simp [Option.bind_eq_some_iff]
      | cons d cs =>
        simp only [List.mapM_cons, Option.pure_def, Option.bind_eq_bind, Option.bind_some,
          Option.bind_eq_some_iff, Option.some.injEq, List.cons.injEq, List.map_cons,
          Piece.char.injEq, ih]
        constructor
        · rintro ⟨_, hps, rfl, rfl⟩
          exact ⟨rfl, hps⟩
        · rintro ⟨rfl, hps⟩
          exact ⟨_, hps, rfl, rfl⟩
    | broken bytes => cases cs <;> simp

/-- What is read is the text that the bytes encode. -/
theorem decode?_eq_some_iff {s : String} :
    decode? bytes = some s ↔ bytes.toByteArray = s.toByteArray := by
  have hread : decode? bytes = some s ↔ bytes = s.toList.flatMap String.utf8EncodeChar := by
    rw [← pieces_eq_map_char_iff, ← mapM_char_eq_some_iff, decode?, Option.map_eq_some_iff]
    constructor
    · rintro ⟨cs, hcs, rfl⟩
      rw [String.toList_ofList]
      exact hcs
    · intro h
      exact ⟨s.toList, h, String.ofList_toList⟩
  rw [hread, ← String.utf8Encode_toList, List.utf8Encode]
  refine ⟨congrArg List.toByteArray, fun h => ?_⟩
  rw [← List.toList_data_toByteArray (l := bytes), h, List.toList_data_toByteArray]

/-- Bytes are a text exactly if they are well-formed. -/
theorem exists_decode?_iff : (∃ s, decode? bytes = some s) ↔ bytes.toByteArray.IsValidUTF8 := by
  simp only [decode?_eq_some_iff]
  constructor
  · rintro ⟨s, hs⟩
    rw [hs]
    exact s.isValidUTF8
  · intro h
    exact ⟨String.ofByteArray bytes.toByteArray h, rfl⟩

end Reading

end HotReload.Text.Utf8
