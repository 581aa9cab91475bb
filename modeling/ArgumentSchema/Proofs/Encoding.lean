import ArgumentSchema.Proofs.Steps
import ArgumentSchema.Text.Utf8
import Mathlib.Data.List.Basic
import Mathlib.Data.List.TakeWhile

/-!
# Texts in UTF-8

Bytes are read as a text exactly if they are its encoding, character by character. Every text has
one encoding, so bytes that are the encoding of none are the only ones that are refused.

> `Utf8.assemble_encodes`, `Utf8.exists_sequence`: the sequences that are read and the encodings of
> characters are the same.
> `Utf8.decode_eq_ok_iff`: what is read.
-/

namespace ArgumentSchema.Utf8

/-- A leading byte, and as many bytes behind it as it asks for, of which each may stand there. -/
structure Sequence (lead : Nat) (following : List Nat) : Prop where
  length : sequenceLength lead = following.length + 1
  second : ∀ b ∈ following.head?, isSecond lead b = true
  more : ∀ b ∈ following.tail, isContinuation b = true

/-- The bytes of a character, as numbers. -/
def units (c : Char) : List Nat := (String.utf8EncodeChar c).map UInt8.toNat

theorem units_eq (c : Char) : units c =
    if c.toNat ≤ 127 then [c.toNat]
    else if c.toNat ≤ 2047 then [c.toNat / 64 % 32 + 192, c.toNat % 64 + 128]
    else if c.toNat ≤ 65535 then
      [c.toNat / 4096 % 16 + 224, c.toNat / 64 % 64 + 128, c.toNat % 64 + 128]
    else [c.toNat / 262144 % 8 + 240, c.toNat / 4096 % 64 + 128, c.toNat / 64 % 64 + 128,
      c.toNat % 64 + 128] := by
  have hbyte : ∀ n < 256, (UInt8.ofNat n).toNat = n := fun n hn => Nat.mod_eq_of_lt hn
  have hval : c.val.toNat = c.toNat := rfl
  unfold units String.utf8EncodeChar
  dsimp only
  rw [hval]
  split
  · rw [List.map_singleton, hbyte _ (by omega)]
  · split
    · simp only [List.map_cons, List.map_nil]
      rw [hbyte _ (by omega), hbyte _ (by omega)]
    · split
      · simp only [List.map_cons, List.map_nil]
        rw [hbyte _ (by omega), hbyte _ (by omega), hbyte _ (by omega)]
      · simp only [List.map_cons, List.map_nil]
        rw [hbyte _ (by omega), hbyte _ (by omega), hbyte _ (by omega), hbyte _ (by omega)]

theorem isContinuation_iff {b : Nat} : isContinuation b = true ↔ 0x80 ≤ b ∧ b ≤ 0xBF := by
  simp [isContinuation]

theorem isSecond_iff {lead b : Nat} : isSecond lead b = true ↔ 0x80 ≤ b ∧ b ≤ 0xBF ∧
    (lead = 0xE0 → 0xA0 ≤ b) ∧ (lead = 0xED → b < 0xA0) ∧ (lead = 0xF0 → 0x90 ≤ b) ∧
    (lead = 0xF4 → b < 0x90) := by
  rw [isSecond, Bool.and_eq_true, isContinuation_iff]
  split
  · simp [*, and_assoc]
  · split
    · simp [*, and_assoc]
    · split
      · simp [*, and_assoc]
      · split
        · simp [*, and_assoc]
        · simp [*]

theorem toNat_ofNat {n : Nat} (h : n.isValidChar) : (Char.ofNat n).toNat = n := by
  rw [Char.ofNat, dif_pos h]
  rfl

theorem sequenceLength_eq_iff {lead n : Nat} : sequenceLength lead = n + 1 ↔
    (n = 0 ∧ lead < 0x80) ∨ (n = 1 ∧ 0xC2 ≤ lead ∧ lead < 0xE0) ∨
    (n = 2 ∧ 0xE0 ≤ lead ∧ lead < 0xF0) ∨ (n = 3 ∧ 0xF0 ≤ lead ∧ lead < 0xF5) := by
  unfold sequenceLength
  repeat' split
  all_goals omega

/-- What a sequence is read as is encoded by it. -/
theorem assemble_encodes {lead : Nat} {following : List Nat} (h : Sequence lead following) :
    units (assemble lead following) = lead :: following := by
  obtain ⟨hlength, hsecond, hmore⟩ := h
  rw [sequenceLength_eq_iff] at hlength
  -- how many bytes follow bounds the first, and with it the number that is assembled
  match following, hlength with
  | [], hlength =>
    have hlead : lead < 0x80 := by simpa using hlength
    have hchar : (assemble lead []).toNat = lead :=
      toNat_ofNat (by simp only [List.length, Nat.isValidChar, List.foldl]; omega)
    rw [units_eq, hchar, if_pos (by omega)]
  | [b], hlength =>
    have hb := isSecond_iff.mp (hsecond b rfl)
    have hlead : 0xC2 ≤ lead ∧ lead < 0xE0 := by simpa using hlength
    have hchar : (assemble lead [b]).toNat = 64 * (lead % 0x20) + b % 64 :=
      toNat_ofNat (by simp only [List.length, Nat.isValidChar, List.foldl]; omega)
    rw [units_eq, hchar, if_neg (by omega), if_pos (by omega)]
    congr 2 <;> omega
  | [b, c], hlength =>
    have hb := isSecond_iff.mp (hsecond b rfl)
    have hc := isContinuation_iff.mp (hmore c (List.mem_singleton_self _))
    have hlead : 0xE0 ≤ lead ∧ lead < 0xF0 := by simpa using hlength
    have hchar : (assemble lead [b, c]).toNat = 64 * (64 * (lead % 0x10) + b % 64) + c % 64 :=
      toNat_ofNat (by simp only [List.length, Nat.isValidChar, List.foldl]; omega)
    rw [units_eq, hchar, if_neg (by omega), if_neg (by omega), if_pos (by omega)]
    congr 3 <;> omega
  | [b, c, d], hlength =>
    have hb := isSecond_iff.mp (hsecond b rfl)
    have hc := isContinuation_iff.mp (hmore c (List.mem_cons_self ..))
    have hd := isContinuation_iff.mp (hmore d (List.mem_cons_of_mem _ (List.mem_singleton_self _)))
    have hlead : 0xF0 ≤ lead ∧ lead < 0xF5 := by simpa using hlength
    have hchar : (assemble lead [b, c, d]).toNat =
        64 * (64 * (64 * (lead % 0x08) + b % 64) + c % 64) + d % 64 :=
      toNat_ofNat (by simp only [List.length, Nat.isValidChar, List.foldl]; omega)
    rw [units_eq, hchar, if_neg (by omega), if_neg (by omega), if_neg (by omega)]
    congr 4 <;> omega
  | _ :: _ :: _ :: _ :: _, hlength =>
    simp only [List.length_cons] at hlength
    omega

/-- Every character is encoded by a sequence that is read as it. -/
theorem exists_sequence (c : Char) :
    ∃ lead following, Sequence lead following ∧ assemble lead following = c := by
  have hvalid : c.toNat < 0xD800 ∨ 0xDFFF < c.toNat ∧ c.toNat < 0x110000 := c.valid
  have hchar : ∀ lead following, (assemble lead following).toNat = c.toNat →
      assemble lead following = c := fun _ _ h => Char.toNat_inj.mp h
  -- the bounds of each length keep its encodings from being overlong, as the second byte asks
  by_cases h1 : c.toNat ≤ 127
  · have hlength : sequenceLength c.toNat = 0 + 1 :=
      sequenceLength_eq_iff.mpr (.inl ⟨rfl, by omega⟩)
    exact ⟨c.toNat, [], ⟨hlength, nofun, nofun⟩, hchar _ _ (toNat_ofNat c.valid)⟩
  · by_cases h2 : c.toNat ≤ 2047
    · have hlength : sequenceLength (c.toNat / 64 + 192) = 1 + 1 :=
        sequenceLength_eq_iff.mpr (.inr (.inl ⟨rfl, by omega, by omega⟩))
      refine ⟨_, [c.toNat % 64 + 128], ⟨hlength, ?_, nofun⟩, hchar _ _ ((toNat_ofNat ?_).trans ?_)⟩
      · rintro b ⟨⟩
        rw [isSecond_iff]
        omega
      · simp only [List.length, Nat.isValidChar, List.foldl]
        omega
      · simp only [List.length, List.foldl]
        omega
    · by_cases h3 : c.toNat ≤ 65535
      · have hlength : sequenceLength (c.toNat / 4096 + 224) = 2 + 1 :=
          sequenceLength_eq_iff.mpr (.inr (.inr (.inl ⟨rfl, by omega, by omega⟩)))
        refine ⟨_, [c.toNat / 64 % 64 + 128, c.toNat % 64 + 128], ⟨hlength, ?_, ?_⟩,
          hchar _ _ ((toNat_ofNat ?_).trans ?_)⟩
        · rintro b ⟨⟩
          rw [isSecond_iff]
          omega
        · simp only [List.tail_cons, List.forall_mem_singleton, isContinuation_iff]
          omega
        · simp only [List.length, Nat.isValidChar, List.foldl]
          omega
        · simp only [List.length, List.foldl]
          omega
      · have hlength : sequenceLength (c.toNat / 262144 + 240) = 3 + 1 :=
          sequenceLength_eq_iff.mpr (.inr (.inr (.inr ⟨rfl, by omega, by omega⟩)))
        refine ⟨_, [c.toNat / 4096 % 64 + 128, c.toNat / 64 % 64 + 128, c.toNat % 64 + 128],
          ⟨hlength, ?_, ?_⟩, hchar _ _ ((toNat_ofNat ?_).trans ?_)⟩
        · rintro b ⟨⟩
          rw [isSecond_iff]
          omega
        · simp only [List.tail_cons, List.forall_mem_cons, isContinuation_iff]
          refine ⟨?_, ?_, nofun⟩ <;> omega
        · simp only [List.length, Nat.isValidChar, List.foldl]
          omega
        · simp only [List.length, List.foldl]
          omega

theorem fitting_eq_iff {lead expected : Nat} {rest : List Nat} :
    fitting lead expected rest = expected ↔ (rest.take expected).length = expected ∧
      (∀ b ∈ (rest.take expected).head?, isSecond lead b = true) ∧
      ∀ b ∈ (rest.take expected).tail, isContinuation b = true := by
  unfold fitting
  have hle : (rest.take expected).length ≤ expected := List.length_take_le ..
  generalize rest.take expected = following at hle
  cases following with
  | nil => simp
  | cons second more =>
    simp only [List.head?_cons, List.tail_cons, List.length_cons, Option.mem_def, Option.some.injEq,
      forall_eq'] at hle ⊢
    have htake := (List.takeWhile_sublist (p := isContinuation) (l := more)).length_le
    constructor
    · intro h
      split at h
      · next hsecond =>
        refine ⟨by omega, hsecond, fun b hb => ?_⟩
        have hall : more.takeWhile isContinuation = more :=
          (List.takeWhile_sublist isContinuation).eq_of_length (by omega)
        exact List.mem_takeWhile_imp (hall.symm ▸ hb)
      · omega
    · rintro ⟨hlength, hsecond, hmore⟩
      rw [if_pos hsecond, List.takeWhile_eq_self_iff.mpr hmore]
      omega

/-- Bytes are read exactly if a sequence stands at their start, and what is behind it is read. -/
theorem decodeFrom_sequence {lead : Nat} {following : List Nat} (h : Sequence lead following)
    (fuel position : Nat) (rest : List Nat) :
    decodeFrom (fuel + 1) position (lead :: (following ++ rest)) =
      (decodeFrom fuel (position + (following.length + 1)) rest).map
        (assemble lead following :: ·) := by
  have htake : (following ++ rest).take following.length = following := List.take_left
  have hfit : fitting lead following.length (following ++ rest) = following.length := by
    rw [fitting_eq_iff, htake]
    exact ⟨rfl, h.second, h.more⟩
  rw [decodeFrom, h.length]
  simp only [Nat.add_sub_cancel, Nat.succ_ne_zero, if_false, hfit, if_true, List.drop_left, htake]

theorem sequence_of_decodeFrom {fuel position lead : Nat} {rest : List Nat} {cs : List Char}
    (h : decodeFrom (fuel + 1) position (lead :: rest) = .ok cs) :
    ∃ following after, Sequence lead following ∧ rest = following ++ after := by
  rw [decodeFrom] at h
  dsimp only at h
  split at h
  · cases h
  · next hlength =>
    split at h
    · next hfit =>
      obtain ⟨htake, hsecond, hmore⟩ := fitting_eq_iff.mp hfit
      refine ⟨_, _, ⟨?_, hsecond, hmore⟩, (List.take_append_drop _ _).symm⟩
      rw [htake]
      omega
    · split at h <;> cases h

theorem nil_eq_flatMap_units_iff {cs : List Char} : [] = cs.flatMap units ↔ cs = [] := by
  cases cs with
  | nil => simp
  | cons c cs =>
    obtain ⟨lead, following, hsequence, rfl⟩ := exists_sequence c
    simp [assemble_encodes hsequence]

theorem decodeFrom_eq_ok_iff {fuel position : Nat} {bytes : List Nat} {cs : List Char}
    (hfuel : bytes.length ≤ fuel) :
    decodeFrom fuel position bytes = .ok cs ↔ bytes = cs.flatMap units := by
  induction fuel generalizing position bytes cs with
  | zero =>
    obtain rfl := List.eq_nil_of_length_eq_zero (Nat.le_zero.mp hfuel)
    rw [nil_eq_flatMap_units_iff, decodeFrom, Except.ok.injEq, eq_comm]
  | succ fuel ih =>
    cases bytes with
    | nil =>
      rw [nil_eq_flatMap_units_iff]
      exact ⟨fun h => (Except.ok.inj h).symm, fun h => congrArg Except.ok h.symm⟩
    | cons lead rest =>
      constructor
      · intro h
        obtain ⟨following, after, hsequence, rfl⟩ := sequence_of_decodeFrom h
        rw [decodeFrom_sequence hsequence] at h
        obtain ⟨cs', hcs', rfl⟩ := Attempt.map_eq_ok_iff.mp h
        rw [List.length_cons, List.length_append] at hfuel
        rw [List.flatMap_cons, assemble_encodes hsequence, ← (ih (by omega)).mp hcs']
        rfl
      · intro h
        cases cs with
        | nil => cases h
        | cons c cs =>
          obtain ⟨lead', following, hsequence, rfl⟩ := exists_sequence c
          rw [List.flatMap_cons, assemble_encodes hsequence, List.cons_append] at h
          obtain ⟨rfl, rfl⟩ := List.cons.inj h
          rw [List.length_cons, List.length_append] at hfuel
          rw [decodeFrom_sequence hsequence, (ih (by omega)).mpr rfl]
          rfl

/-- Bytes are read as a text exactly if they are its encoding. -/
theorem decode_eq_ok_iff {bytes : List UInt8} {cs : List Char} :
    decode bytes = .ok cs ↔ bytes = cs.flatMap String.utf8EncodeChar := by
  rw [decode, decodeFrom_eq_ok_iff (List.length_map _).le]
  have hunits : cs.flatMap units = (cs.flatMap String.utf8EncodeChar).map UInt8.toNat := by
    rw [List.map_flatMap]
    rfl
  rw [hunits]
  exact (List.map_injective_iff.mpr fun _ _ => UInt8.toNat_inj.mp).eq_iff

end ArgumentSchema.Utf8
