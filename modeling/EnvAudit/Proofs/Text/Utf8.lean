import EnvAudit.Text.Utf8
/-!
# What decoding keeps

The pieces of a file spell its bytes, each character by the bytes it is written with (`flatMap_bytes_pieces`), and what
is written is read back (`decodeStrict_encode`).  What is unfinished ends where a byte comes that can only begin
something, so a file can be decoded in parts there (`pieces_append_lead`), and around every character that is in it: what
is wrong with the bytes on one line is no matter to the next.
-/
namespace EnvAudit

/-! ## Unfinished characters

What can be unfinished: the bytes so far, by the value they hold.  The bounds on the value are those of a character
whose other bytes are still owed. -/

inductive Begun : Unfinished → Prop
  | ofTwo (v : Nat) (hlow : 2 ≤ v) (hhigh : v < 32) : Begun ⟨[UInt8.ofNat (0xC0 + v)], v, 1, 0x80, 0xBF⟩
  | ofThree (v low high : Nat) (hv : v < 16) (hlow : 0x80 ≤ low) (hhigh : high ≤ 0xBF) (hshort : v = 0 → 0xA0 ≤ low)
      (hpair : v = 13 → high ≤ 0x9F) : Begun ⟨[UInt8.ofNat (0xE0 + v)], v, 2, low, high⟩
  | twoOfThree (v : Nat) (hlow : 32 ≤ v) (hhigh : v < 1024) (hpair : v < 0x360 ∨ 0x380 ≤ v) :
      Begun ⟨[UInt8.ofNat (0xE0 + v / 64), UInt8.ofNat (0x80 + v % 64)], v, 1, 0x80, 0xBF⟩
  | ofFour (v low high : Nat) (hv : v ≤ 4) (hlow : 0x80 ≤ low) (hhigh : high ≤ 0xBF) (hshort : v = 0 → 0x90 ≤ low)
      (hlast : v = 4 → high ≤ 0x8F) : Begun ⟨[UInt8.ofNat (0xF0 + v)], v, 3, low, high⟩
  | twoOfFour (v : Nat) (hlow : 16 ≤ v) (hhigh : v < 0x110) :
      Begun ⟨[UInt8.ofNat (0xF0 + v / 64), UInt8.ofNat (0x80 + v % 64)], v, 2, 0x80, 0xBF⟩
  | threeOfFour (v : Nat) (hlow : 0x400 ≤ v) (hhigh : v < 0x4400) :
      Begun ⟨[UInt8.ofNat (0xF0 + v / 4096), UInt8.ofNat (0x80 + v / 64 % 64), UInt8.ofNat (0x80 + v % 64)], v, 1,
        0x80, 0xBF⟩

theorem Begun.low_le {u : Unfinished} (h : Begun u) : 0x80 ≤ u.low := by
  cases h <;> first | assumption | exact Nat.le_refl _

theorem Begun.high_le {u : Unfinished} (h : Begun u) : u.high ≤ 0xBF := by
  cases h <;> first | assumption | exact Nat.le_refl _

theorem begun_of_opening {b : UInt8} {u : Unfinished} (h : opening b = .unfinished u) : Begun u := by
  have hb : UInt8.ofNat b.toNat = b := UInt8.ofNat_toNat
  have hlt : b.toNat < 256 := b.toNat_lt
  have hlead : ∀ n, n ≤ b.toNat → UInt8.ofNat (n + (b.toNat - n)) = b := fun n hn => by rw [Nat.add_sub_cancel' hn, hb]
  unfold opening at h
  dsimp only at h
  split at h
  · cases h
  split at h
  · cases h
  split at h
  · cases h
    have := Begun.ofTwo (b.toNat - 0xC0) (by omega) (by omega)
    rwa [hlead 0xC0 (by omega)] at this
  split at h
  · cases h
    have := Begun.ofThree (b.toNat - 0xE0) 0xA0 0xBF (by omega) (by omega) (by omega) (by omega) (by omega)
    rwa [hlead 0xE0 (by omega), show b.toNat - 0xE0 = 0 by omega] at this
  split at h
  · cases h
    have := Begun.ofThree (b.toNat - 0xE0) 0x80 0x9F (by omega) (by omega) (by omega) (by omega) (by omega)
    rwa [hlead 0xE0 (by omega)] at this
  split at h
  · cases h
    have := Begun.ofThree (b.toNat - 0xE0) 0x80 0xBF (by omega) (by omega) (by omega) (by omega) (by omega)
    rwa [hlead 0xE0 (by omega)] at this
  split at h
  · cases h
    have := Begun.ofFour (b.toNat - 0xF0) 0x90 0xBF (by omega) (by omega) (by omega) (by omega) (by omega)
    rwa [hlead 0xF0 (by omega), show b.toNat - 0xF0 = 0 by omega] at this
  split at h
  · cases h
    have := Begun.ofFour (b.toNat - 0xF0) 0x80 0xBF (by omega) (by omega) (by omega) (by omega) (by omega)
    rwa [hlead 0xF0 (by omega)] at this
  split at h
  · cases h
    have := Begun.ofFour (b.toNat - 0xF0) 0x80 0x8F (by omega) (by omega) (by omega) (by omega) (by omega)
    rwa [hlead 0xF0 (by omega)] at this
  · cases h

theorem toNat_ofNat_of_valid {n : Nat} (h : n < 0xD800 ∨ 0xDFFF < n ∧ n < 0x110000) : (Char.ofNat n).toNat = n := by
  have hvalid : n.isValidChar := h
  unfold Char.ofNat
  rw [dif_pos hvalid]
  rfl

theorem bytes_of_opening {b : UInt8} {u : Unfinished} (h : opening b = .unfinished u) : u.bytes = [b] := by
  unfold opening at h
  dsimp only at h
  repeat' (split at h; · cases h <;> rfl)
  cases h

/-- A byte in the range of a further byte, by its last six bits. -/
theorem ofNat_tail {b : UInt8} (hlow : 0x80 ≤ b.toNat) (hhigh : b.toNat ≤ 0xBF) :
    UInt8.ofNat (0x80 + b.toNat % 64) = b := by
  rw [show 0x80 + b.toNat % 64 = b.toNat by omega, UInt8.ofNat_toNat]

theorem encodeChar_two {n : Nat} (hlow : 0x80 ≤ n) (hhigh : n < 0x800) :
    encodeChar (Char.ofNat n) = [UInt8.ofNat (0xC0 + n / 64), UInt8.ofNat (0x80 + n % 64)] := by
  unfold encodeChar
  rw [toNat_ofNat_of_valid (by omega)]
  dsimp only
  rw [if_neg (by omega), if_pos hhigh]

theorem encodeChar_three {n : Nat} (hlow : 0x800 ≤ n) (hhigh : n < 0x10000) (hpair : n < 0xD800 ∨ 0xDFFF < n) :
    encodeChar (Char.ofNat n) =
      [UInt8.ofNat (0xE0 + n / 4096), UInt8.ofNat (0x80 + n / 64 % 64), UInt8.ofNat (0x80 + n % 64)] := by
  unfold encodeChar
  rw [toNat_ofNat_of_valid (by omega)]
  dsimp only
  rw [if_neg (by omega), if_neg (by omega), if_pos hhigh]

theorem encodeChar_four {n : Nat} (hlow : 0x10000 ≤ n) (hhigh : n < 0x110000) :
    encodeChar (Char.ofNat n) = [UInt8.ofNat (0xF0 + n / 262144), UInt8.ofNat (0x80 + n / 4096 % 64),
      UInt8.ofNat (0x80 + n / 64 % 64), UInt8.ofNat (0x80 + n % 64)] := by
  unfold encodeChar
  rw [toNat_ofNat_of_valid (by omega)]
  dsimp only
  rw [if_neg (by omega), if_neg (by omega), if_neg (by omega)]

/-- **A further byte** completes a character, which is written with its bytes, or leaves one that is still begun. -/
theorem Begun.extend {u : Unfinished} (h : Begun u) {b : UInt8} (hlow : u.low ≤ b.toNat) (hhigh : b.toNat ≤ u.high) :
    (u.extend b).owed = 0 ∧ encodeChar (Char.ofNat (u.extend b).value) = u.bytes ++ [b] ∨
      (u.extend b).owed ≠ 0 ∧ Begun (u.extend b) := by
  have htail : 0x80 ≤ b.toNat → b.toNat ≤ 0xBF → UInt8.ofNat (0x80 + b.toNat % 64) = b := ofNat_tail
  have hlast : ∀ v, (v * 64 + b.toNat % 64) % 64 = b.toNat % 64 := fun v => by omega
  have hfirst : ∀ v, (v * 64 + b.toNat % 64) / 64 = v := fun v => by omega
  cases h with
  | ofTwo v _ _ =>
    dsimp only at hlow hhigh
    refine Or.inl ⟨rfl, ?_⟩
    change encodeChar (Char.ofNat (v * 64 + b.toNat % 64)) = _
    rw [encodeChar_two (by omega) (by omega), hfirst, hlast, htail hlow hhigh]
    rfl
  | ofThree v _ _ _ _ _ _ _ =>
    dsimp only at hlow hhigh
    refine Or.inr ⟨Nat.one_ne_zero, ?_⟩
    have hnext := Begun.twoOfThree (v * 64 + b.toNat % 64) (by omega) (by omega) (by omega)
    rw [hfirst, hlast, htail (by omega) (by omega)] at hnext
    exact hnext
  | twoOfThree v _ _ _ =>
    dsimp only at hlow hhigh
    refine Or.inl ⟨rfl, ?_⟩
    change encodeChar (Char.ofNat (v * 64 + b.toNat % 64)) = _
    rw [encodeChar_three (by omega) (by omega) (by omega), hfirst, hlast, htail hlow hhigh,
      show (v * 64 + b.toNat % 64) / 4096 = v / 64 by omega]
    rfl
  | ofFour v _ _ _ _ _ _ _ =>
    dsimp only at hlow hhigh
    refine Or.inr ⟨Nat.succ_ne_zero 1, ?_⟩
    have hnext := Begun.twoOfFour (v * 64 + b.toNat % 64) (by omega) (by omega)
    rw [hfirst, hlast, htail (by omega) (by omega)] at hnext
    exact hnext
  | twoOfFour v _ _ =>
    dsimp only at hlow hhigh
    refine Or.inr ⟨Nat.one_ne_zero, ?_⟩
    have hnext := Begun.threeOfFour (v * 64 + b.toNat % 64) (by omega) (by omega)
    rw [hfirst, hlast, htail hlow hhigh, show (v * 64 + b.toNat % 64) / 4096 = v / 64 by omega] at hnext
    exact hnext
  | threeOfFour v _ _ =>
    dsimp only at hlow hhigh
    refine Or.inl ⟨rfl, ?_⟩
    change encodeChar (Char.ofNat (v * 64 + b.toNat % 64)) = _
    rw [encodeChar_four (by omega) (by omega), hfirst, hlast, htail hlow hhigh,
      show (v * 64 + b.toNat % 64) / 262144 = v / 4096 by omega,
      show (v * 64 + b.toNat % 64) / 4096 % 64 = v / 64 % 64 by omega]
    rfl

/-! ## One byte at a time -/

theorem pieces_of_whole {b : UInt8} {c : Char} (h : opening b = .whole c) (bs : Bytes) :
    pieces (b :: bs) = .char c :: pieces bs := by
  rw [pieces, h]

theorem pieces_of_unfinished {b : UInt8} {u : Unfinished} (h : opening b = .unfinished u) (bs : Bytes) :
    pieces (b :: bs) = piecesAfter u bs := by
  rw [pieces, h]

theorem pieces_of_invalid {b : UInt8} (h : opening b = .invalid) (bs : Bytes) :
    pieces (b :: bs) = .stray [b] :: pieces bs := by
  rw [pieces, h]

theorem piecesAfter_of_in {u : Unfinished} {b : UInt8} (hlow : u.low ≤ b.toNat) (hhigh : b.toNat ≤ u.high) (bs : Bytes) :
    piecesAfter u (b :: bs) =
      if (u.extend b).owed = 0 then .char (Char.ofNat (u.extend b).value) :: pieces bs
      else piecesAfter (u.extend b) bs := by
  rw [piecesAfter, if_pos (by simp [hlow, hhigh])]

/-- A byte out of range cuts the character short and begins anew. -/
theorem piecesAfter_of_out {u : Unfinished} {b : UInt8} (h : ¬(u.low ≤ b.toNat ∧ b.toNat ≤ u.high)) (bs : Bytes) :
    piecesAfter u (b :: bs) = .stray u.bytes :: pieces (b :: bs) := by
  rw [piecesAfter, if_neg (by simpa using h), pieces]

theorem opening_of_ascii {b : UInt8} (h : b.toNat < 0x80) : opening b = .whole (Char.ofNat b.toNat) := by
  unfold opening
  dsimp only
  rw [if_pos h]

theorem ascii_of_opening {b : UInt8} {c : Char} (h : opening b = .whole c) : b.toNat < 0x80 ∧ c = Char.ofNat b.toNat := by
  unfold opening at h
  dsimp only at h
  split at h
  · exact ⟨by assumption, (Opening.whole.inj h).symm⟩
  · repeat' (split at h; · cases h)
    cases h

theorem encodeChar_one {n : Nat} (h : n < 0x80) : encodeChar (Char.ofNat n) = [UInt8.ofNat n] := by
  unfold encodeChar
  rw [toNat_ofNat_of_valid (by omega)]
  dsimp only
  rw [if_pos h]

/-! ## Pieces spell the bytes -/

def Piece.bytes : Piece → Bytes
  | .char c => encodeChar c
  | .stray bs => bs

/-- Bytes and their pieces: a character by the bytes it is written with, or bytes that are no character, none of them
ASCII. -/
inductive Spelled : Bytes → List Piece → Prop
  | nil : Spelled [] []
  | char (c : Char) {bs : Bytes} {ps : List Piece} (h : Spelled bs ps) : Spelled (encodeChar c ++ bs) (.char c :: ps)
  | stray {s bs : Bytes} {ps : List Piece} (hs : ∀ b ∈ s, 0x80 ≤ b.toNat) (h : Spelled bs ps) :
      Spelled (s ++ bs) (.stray s :: ps)

theorem Begun.high {u : Unfinished} (h : Begun u) : ∀ b ∈ u.bytes, 0x80 ≤ b.toNat := by
  have hbyte : ∀ n, 0x80 ≤ n → n < 256 → 0x80 ≤ (UInt8.ofNat n).toNat := fun n hlow hhigh => by
    rw [UInt8.toNat_ofNat_of_lt' (by simpa [UInt8.size] using hhigh)]
    exact hlow
  intro b hb
  cases h with
  | ofTwo | ofThree | ofFour =>
    rw [List.mem_singleton.1 hb]
    exact hbyte _ (by omega) (by omega)
  | twoOfThree | twoOfFour =>
    simp only [List.mem_cons, List.not_mem_nil, or_false] at hb
    rcases hb with rfl | rfl <;> exact hbyte _ (by omega) (by omega)
  | threeOfFour =>
    simp only [List.mem_cons, List.not_mem_nil, or_false] at hb
    rcases hb with rfl | rfl | rfl <;> exact hbyte _ (by omega) (by omega)

theorem spelled_pieces_and : ∀ bs : Bytes, Spelled bs (pieces bs) ∧
    ∀ u, Begun u → Spelled (u.bytes ++ bs) (piecesAfter u bs)
  | [] => ⟨.nil, fun _ hu => .stray hu.high .nil⟩
  | b :: bs => by
    obtain ⟨hpieces, hafter⟩ := spelled_pieces_and bs
    have hanew : Spelled (b :: bs) (pieces (b :: bs)) := by
      cases hb : opening b with
      | whole c =>
        obtain ⟨hascii, rfl⟩ := ascii_of_opening hb
        have hchar := Spelled.char (Char.ofNat b.toNat) hpieces
        rw [encodeChar_one hascii, UInt8.ofNat_toNat] at hchar
        rw [pieces_of_whole hb]
        exact hchar
      | unfinished u =>
        have hbegun := hafter u (begun_of_opening hb)
        rw [bytes_of_opening hb] at hbegun
        rw [pieces_of_unfinished hb]
        exact hbegun
      | invalid =>
        have hhigh : 0x80 ≤ b.toNat := Nat.not_lt.1 fun hascii => by
          rw [opening_of_ascii hascii] at hb
          cases hb
        rw [pieces_of_invalid hb]
        exact .stray (s := [b]) (List.forall_mem_singleton.2 hhigh) hpieces
    refine ⟨hanew, fun u hu => ?_⟩
    by_cases hin : u.low ≤ b.toNat ∧ b.toNat ≤ u.high
    · rw [piecesAfter_of_in hin.1 hin.2]
      obtain ⟨howed, hbytes⟩ | ⟨howed, hbegun⟩ := hu.extend hin.1 hin.2
      · have hchar := Spelled.char (Char.ofNat (u.extend b).value) hpieces
        rw [hbytes, List.append_assoc] at hchar
        rw [if_pos howed]
        exact hchar
      · have hmore := hafter _ hbegun
        rw [show (u.extend b).bytes = u.bytes ++ [b] from rfl, List.append_assoc] at hmore
        rw [if_neg howed]
        exact hmore
    · rw [piecesAfter_of_out hin]
      exact .stray hu.high hanew

theorem spelled_pieces (bs : Bytes) : Spelled bs (pieces bs) := (spelled_pieces_and bs).1

theorem Spelled.flatMap_bytes {bs : Bytes} {ps : List Piece} (h : Spelled bs ps) : ps.flatMap Piece.bytes = bs := by
  induction h with
  | nil => rfl
  | char c _ ih => rw [List.flatMap_cons, ih]; rfl
  | stray _ _ ih => rw [List.flatMap_cons, ih]; rfl

theorem Spelled.stray_high {bs : Bytes} {ps : List Piece} (h : Spelled bs ps) {s : Bytes} (hs : .stray s ∈ ps) :
    ∀ b ∈ s, 0x80 ≤ b.toNat := by
  induction h with
  | nil => cases hs
  | char c _ ih => exact ih ((List.mem_cons.1 hs).resolve_left nofun)
  | stray hhigh _ ih =>
    rcases List.mem_cons.1 hs with heq | hs
    · exact Piece.stray.inj heq ▸ hhigh
    · exact ih hs

/-- **The pieces of a file** spell its bytes. -/
theorem flatMap_bytes_pieces (bs : Bytes) : (pieces bs).flatMap Piece.bytes = bs := (spelled_pieces bs).flatMap_bytes

/-! ## In parts -/

/-- A byte that no begun character goes on with. -/
def IsLead (b : UInt8) : Prop := b.toNat < 0x80 ∨ 0xBF < b.toNat

theorem pieces_append_lead_and {b : UInt8} (hb : IsLead b) (ys : Bytes) : ∀ xs : Bytes,
    pieces (xs ++ b :: ys) = pieces xs ++ pieces (b :: ys) ∧
      ∀ u, Begun u → piecesAfter u (xs ++ b :: ys) = piecesAfter u xs ++ pieces (b :: ys)
  | [] => by
    refine ⟨rfl, fun u hu => ?_⟩
    have hlow := hu.low_le
    have hhigh := hu.high_le
    rw [List.nil_append, piecesAfter_of_out (by rcases hb with hb | hb <;> omega)]
    rfl
  | x :: xs => by
    obtain ⟨hpieces, hafter⟩ := pieces_append_lead_and hb ys xs
    have hanew : pieces (x :: xs ++ b :: ys) = pieces (x :: xs) ++ pieces (b :: ys) := by
      rw [List.cons_append]
      cases hx : opening x with
      | whole c => rw [pieces_of_whole hx, pieces_of_whole hx, hpieces, List.cons_append]
      | unfinished u => rw [pieces_of_unfinished hx, pieces_of_unfinished hx, hafter u (begun_of_opening hx)]
      | invalid => rw [pieces_of_invalid hx, pieces_of_invalid hx, hpieces, List.cons_append]
    refine ⟨hanew, fun u hu => ?_⟩
    by_cases hin : u.low ≤ x.toNat ∧ x.toNat ≤ u.high
    · rw [List.cons_append, piecesAfter_of_in hin.1 hin.2, piecesAfter_of_in hin.1 hin.2]
      obtain ⟨howed, -⟩ | ⟨howed, hbegun⟩ := hu.extend hin.1 hin.2
      · rw [if_pos howed, if_pos howed, hpieces, List.cons_append]
      · rw [if_neg howed, if_neg howed, hafter _ hbegun]
    · rw [piecesAfter_of_out hin, List.cons_append, piecesAfter_of_out hin, ← List.cons_append, hanew, List.cons_append]

/-- **At a byte that can only begin something** a file is decoded in parts. -/
theorem pieces_append_lead {b : UInt8} (hb : IsLead b) (xs ys : Bytes) :
    pieces (xs ++ b :: ys) = pieces xs ++ pieces (b :: ys) := (pieces_append_lead_and hb ys xs).1

theorem pieces_append_ascii {b : UInt8} (hb : b.toNat < 0x80) (xs ys : Bytes) :
    pieces (xs ++ b :: ys) = pieces xs ++ .char (Char.ofNat b.toNat) :: pieces ys := by
  rw [pieces_append_lead (.inl hb), pieces_of_whole (opening_of_ascii hb)]

theorem decodeLossy_append_ascii {b : UInt8} (hb : b.toNat < 0x80) (xs ys : Bytes) :
    decodeLossy (xs ++ b :: ys) = decodeLossy xs ++ Char.ofNat b.toNat :: decodeLossy ys := by
  unfold decodeLossy
  rw [pieces_append_ascii hb, List.map_append, List.map_cons]
  rfl

theorem decodeLossy_append_newline (xs ys : Bytes) :
    decodeLossy (xs ++ 10 :: ys) = decodeLossy xs ++ '\n' :: decodeLossy ys :=
  decodeLossy_append_ascii (by decide) xs ys

theorem mem_of_mem_decodeLossy {b : UInt8} (hb : b.toNat < 0x80) {bs : Bytes}
    (h : Char.ofNat b.toNat ∈ decodeLossy bs) : b ∈ bs := by
  obtain ⟨piece, hpiece, hshown⟩ := List.mem_map.mp h
  cases piece with
  | char c =>
    obtain rfl : c = Char.ofNat b.toNat := hshown
    rw [← flatMap_bytes_pieces bs]
    refine List.mem_flatMap.mpr ⟨_, hpiece, ?_⟩
    change b ∈ encodeChar (Char.ofNat b.toNat)
    rw [encodeChar_one hb, UInt8.ofNat_toNat]
    exact List.mem_singleton_self b
  | stray s =>
    have hval : (Char.ofNat b.toNat).toNat = b.toNat := toNat_ofNat_of_valid (by omega)
    rw [← show replacement = Char.ofNat b.toNat from hshown] at hval
    exact absurd hb (by rw [← hval]; decide)

theorem newline_mem_of_mem_decodeLossy {bs : Bytes} (h : '\n' ∈ decodeLossy bs) : 10 ∈ bs :=
  mem_of_mem_decodeLossy (by decide) h

/-! ## What is written is read back -/

theorem opening_leadOfTwo : ∀ v < 32, 2 ≤ v →
    opening (UInt8.ofNat (0xC0 + v)) = .unfinished ⟨[UInt8.ofNat (0xC0 + v)], v, 1, 0x80, 0xBF⟩ := by
  decide

theorem opening_leadOfThree : ∀ v < 16, opening (UInt8.ofNat (0xE0 + v)) =
    .unfinished ⟨[UInt8.ofNat (0xE0 + v)], v, 2, if v = 0 then 0xA0 else 0x80, if v = 13 then 0x9F else 0xBF⟩ := by
  decide

theorem opening_leadOfFour : ∀ v < 5, opening (UInt8.ofNat (0xF0 + v)) =
    .unfinished ⟨[UInt8.ofNat (0xF0 + v)], v, 3, if v = 0 then 0x90 else 0x80, if v = 4 then 0x8F else 0xBF⟩ := by
  decide

theorem toNat_tail {t : Nat} (ht : t < 64) : (UInt8.ofNat (0x80 + t)).toNat = 0x80 + t :=
  UInt8.toNat_ofNat_of_lt' (by simp [UInt8.size]; omega)

theorem piecesAfter_last {bytes : Bytes} {v low high t : Nat} (ht : t < 64) (hlow : low ≤ 0x80 + t)
    (hhigh : 0x80 + t ≤ high) (bs : Bytes) :
    piecesAfter ⟨bytes, v, 1, low, high⟩ (UInt8.ofNat (0x80 + t) :: bs) = .char (Char.ofNat (v * 64 + t)) :: pieces bs := by
  have hbyte := toNat_tail ht
  rw [piecesAfter_of_in (by rw [hbyte]; exact hlow) (by rw [hbyte]; exact hhigh)]
  simp only [Unfinished.extend, hbyte, show (0x80 + t) % 64 = t by omega]
  exact if_pos trivial

theorem piecesAfter_more {bytes : Bytes} {v owed low high t : Nat} (howed : owed ≠ 0) (ht : t < 64)
    (hlow : low ≤ 0x80 + t) (hhigh : 0x80 + t ≤ high) (bs : Bytes) :
    piecesAfter ⟨bytes, v, owed + 1, low, high⟩ (UInt8.ofNat (0x80 + t) :: bs) =
      piecesAfter ⟨bytes ++ [UInt8.ofNat (0x80 + t)], v * 64 + t, owed, 0x80, 0xBF⟩ bs := by
  have hbyte := toNat_tail ht
  rw [piecesAfter_of_in (by rw [hbyte]; exact hlow) (by rw [hbyte]; exact hhigh)]
  simp only [Unfinished.extend, hbyte, show (0x80 + t) % 64 = t by omega, Nat.add_one_sub_one]
  exact if_neg howed

theorem pieces_encodeChar_append (c : Char) (bs : Bytes) : pieces (encodeChar c ++ bs) = .char c :: pieces bs := by
  have hvalid : c.toNat < 0xD800 ∨ 0xDFFF < c.toNat ∧ c.toNat < 0x110000 := c.valid
  have hc : Char.ofNat c.toNat = c := Char.ofNat_toNat c
  generalize c.toNat = n at hvalid hc
  subst hc
  by_cases hone : n < 0x80
  · have hbyte : (UInt8.ofNat n).toNat = n := UInt8.toNat_ofNat_of_lt' (by simp [UInt8.size]; omega)
    rw [encodeChar_one hone, List.singleton_append, pieces_of_whole (opening_of_ascii (by omega)), hbyte]
  by_cases htwo : n < 0x800
  · rw [encodeChar_two (by omega) htwo]
    simp only [List.cons_append, List.nil_append]
    rw [pieces_of_unfinished (opening_leadOfTwo _ (by omega) (by omega)),
      piecesAfter_last (by omega) (by omega) (by omega), show n / 64 * 64 + n % 64 = n by omega]
  by_cases hthree : n < 0x10000
  · rw [encodeChar_three (by omega) hthree (by omega)]
    simp only [List.cons_append, List.nil_append]
    rw [pieces_of_unfinished (opening_leadOfThree _ (by omega)),
      piecesAfter_more (by omega) (by omega) (by split <;> omega) (by split <;> omega),
      piecesAfter_last (by omega) (by omega) (by omega), show (n / 4096 * 64 + n / 64 % 64) * 64 + n % 64 = n by omega]
  · rw [encodeChar_four (by omega) (by omega)]
    simp only [List.cons_append, List.nil_append]
    rw [pieces_of_unfinished (opening_leadOfFour _ (by omega)),
      piecesAfter_more (by omega) (by omega) (by split <;> omega) (by split <;> omega),
      piecesAfter_more (by omega) (by omega) (by omega) (by omega), piecesAfter_last (by omega) (by omega) (by omega),
      show ((n / 262144 * 64 + n / 4096 % 64) * 64 + n / 64 % 64) * 64 + n % 64 = n by omega]

theorem exists_encodeChar_eq_cons (c : Char) : ∃ b bs, encodeChar c = b :: bs ∧ IsLead b := by
  have hlast : c.toNat < 0x110000 := by
    rcases c.valid with h | h
    · exact Nat.lt_trans h (by decide)
    · exact h.2
  have hbyte : ∀ n, 0xBF < n → n < 256 → IsLead (UInt8.ofNat n) := fun n hlow hhigh => by
    refine .inr ?_
    rw [UInt8.toNat_ofNat_of_lt' (by simpa [UInt8.size] using hhigh)]
    exact hlow
  unfold encodeChar
  generalize c.toNat = n at hlast
  dsimp only
  split
  · refine ⟨_, _, rfl, .inl ?_⟩
    rw [UInt8.toNat_ofNat_of_lt' (by simp [UInt8.size]; omega)]
    assumption
  split
  · exact ⟨_, _, rfl, hbyte _ (by omega) (by omega)⟩
  split
  · exact ⟨_, _, rfl, hbyte _ (by omega) (by omega)⟩
  · exact ⟨_, _, rfl, hbyte _ (by omega) (by omega)⟩

/-- **Around a character** a file is decoded in parts. -/
theorem pieces_append_encodeChar_append (c : Char) (xs ys : Bytes) :
    pieces (xs ++ (encodeChar c ++ ys)) = pieces xs ++ .char c :: pieces ys := by
  obtain ⟨b, bs, hchar, hb⟩ := exists_encodeChar_eq_cons c
  rw [hchar, List.cons_append, pieces_append_lead hb, ← List.cons_append, ← hchar, pieces_encodeChar_append]

theorem pieces_encode : ∀ t : Text, pieces (encode t) = t.map .char
  | [] => rfl
  | c :: t => by
    change pieces (encodeChar c ++ encode t) = _
    rw [pieces_encodeChar_append, pieces_encode t, List.map_cons]

/-- **A text that is written** is read back. -/
theorem decodeStrict_encode (t : Text) : decodeStrict (encode t) = some t := by
  unfold decodeStrict
  rw [pieces_encode]
  induction t with
  | nil => rfl
  | cons c t ih => rw [List.map_cons, List.mapM_cons, ih]; rfl

/-! ## Line terminators -/

section Terminators

variable {α : Type} [CharLike α]

theorem unifyNewlines_cons_of_view {u : α} (hu : CharLike.view u ≠ '\r') :
    ∀ t, unifyNewlines (u :: t) = u :: unifyNewlines t
  | [] => if_neg hu
  | _ :: _ => if_neg hu

theorem unifyNewlines_append_of_view : ∀ {p : List α}, (∀ u ∈ p, CharLike.view u ≠ '\r') →
    ∀ t, unifyNewlines (p ++ t) = p ++ unifyNewlines t
  | [], _, _ => rfl
  | u :: p, h, t => by
    obtain ⟨hu, hp⟩ := List.forall_mem_cons.1 h
    rw [List.cons_append, unifyNewlines_cons_of_view hu, unifyNewlines_append_of_view hp, List.cons_append]

theorem unifyNewlines_of_view {t : List α} (h : ∀ u ∈ t, CharLike.view u ≠ '\r') : unifyNewlines t = t := by
  have hall := unifyNewlines_append_of_view h []
  rwa [List.append_nil, show unifyNewlines ([] : List α) = [] from rfl, List.append_nil] at hall

/-- A carriage return is read as a newline, and takes a newline behind it along. -/
theorem exists_unifyNewlines_of_view {u : α} (hu : CharLike.view u = '\r') : ∀ t, ∃ n rest,
    CharLike.view n = '\n' ∧ (t = rest ∨ t = n :: rest) ∧ unifyNewlines (u :: t) = n :: unifyNewlines rest
  | [] => ⟨CharLike.ofChar '\n', [], CharLike.view_ofChar '\n', .inl rfl, if_pos hu⟩
  | d :: t => by
    rw [unifyNewlines, if_pos hu]
    by_cases hd : CharLike.view d = '\n'
    · exact ⟨d, t, hd, .inr rfl, if_pos hd⟩
    · exact ⟨CharLike.ofChar '\n', d :: t, CharLike.view_ofChar '\n', .inl rfl, if_neg hd⟩

/-- What is read was there or is a newline, and is no carriage return. -/
theorem mem_unifyNewlines (t : List α) :
    ∀ u ∈ unifyNewlines t, CharLike.view u ≠ '\r' ∧ (u ∈ t ∨ CharLike.view u = '\n') := by
  match t with
  | [] => exact fun _ h => absurd h List.not_mem_nil
  | c :: t =>
    by_cases hc : CharLike.view c = '\r'
    · obtain ⟨n, rest, hn, htail, hunified⟩ := exists_unifyNewlines_of_view hc t
      have hrest : ∀ u ∈ rest, u ∈ c :: t := by
        rcases htail with rfl | rfl <;> intro u hu <;> simp [hu]
      rw [hunified, List.forall_mem_cons]
      exact ⟨⟨by rw [hn]; decide, .inr hn⟩, fun u hu => (mem_unifyNewlines rest u hu).imp_right (Or.imp_left (hrest u))⟩
    · rw [unifyNewlines_cons_of_view hc, List.forall_mem_cons]
      exact ⟨⟨hc, .inl List.mem_cons_self⟩,
        fun u hu => (mem_unifyNewlines t u hu).imp_right (Or.imp_left (List.mem_cons_of_mem c))⟩
  termination_by t.length
  decreasing_by
    · rcases htail with rfl | rfl <;> simp +arith
    · simp

end Terminators

theorem unifyNewlines_of_not_mem {t : Text} (h : '\r' ∉ t) : unifyNewlines t = t :=
  unifyNewlines_of_view fun c hc (hview : c = '\r') => h (hview ▸ hc)

end EnvAudit
