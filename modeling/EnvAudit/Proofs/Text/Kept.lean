import EnvAudit.EnvFile.Fix
import EnvAudit.Proofs.Text.Split
import EnvAudit.Proofs.Text.Utf8
/-!
# Files whose bytes are kept

A file that is read with every byte kept is written back as it was (`encodeGlyphs_decodeKeeping`).  No kept byte is
ASCII (`faithful_decodeKeeping`), so a carriage return or a newline among the bytes is one among the units.  What
reading does to line terminators can therefore be told on the bytes alone (`encodeGlyphs_unifyNewlines`): it leaves a
file as it is exactly if there is no carriage return in it (`unifiedBytes_eq_self_iff`).  And the lines of what is
written are the lines of the units (`splitOn_encodeGlyphs`).
-/
namespace EnvAudit

/-! ## Bytes come back -/

theorem encodeGlyphs_glyphs (p : Piece) : encodeGlyphs p.glyphs = p.bytes := by
  cases p with
  | char c => exact List.append_nil _
  | stray bs =>
    change (bs.map Glyph.raw).flatMap Glyph.encode = bs
    rw [List.flatMap_map]
    exact List.flatMap_singleton' bs

/-- **A file that is read with its bytes kept** is written back as it was. -/
theorem encodeGlyphs_decodeKeeping (bs : Bytes) : encodeGlyphs (decodeKeeping bs) = bs := by
  unfold encodeGlyphs decodeKeeping
  rw [List.flatMap_assoc]
  calc (pieces bs).flatMap (fun p => encodeGlyphs p.glyphs)
      = (pieces bs).flatMap Piece.bytes := by simp only [encodeGlyphs_glyphs]
    _ = bs := flatMap_bytes_pieces bs

/-! ## ASCII bytes -/

/-- Every byte that is kept is none of ASCII. -/
def Faithful (t : List Glyph) : Prop := ∀ b, .raw b ∈ t → 0x80 ≤ b.toNat

theorem Faithful.of_subset {s t : List Glyph} (h : Faithful t) (hs : ∀ g ∈ s, g ∈ t) : Faithful s :=
  fun b hb => h b (hs _ hb)

theorem faithful_decodeKeeping (bs : Bytes) : Faithful (decodeKeeping bs) := by
  intro b hb
  obtain ⟨p, hp, hmem⟩ := List.mem_flatMap.1 hb
  cases p with
  | char c => cases List.mem_singleton.1 hmem
  | stray s =>
    obtain ⟨b', hb', hraw⟩ := List.mem_map.1 hmem
    exact Glyph.raw.inj hraw ▸ (spelled_pieces bs).stray_high hp b' hb'

theorem faithful_unifyNewlines {t : List Glyph} (h : Faithful t) : Faithful (unifyNewlines t) := by
  intro b hb
  rcases (mem_unifyNewlines t _ hb).2 with hmem | hview
  · exact h b hmem
  · exact absurd (show replacement = '\n' from hview) (by decide)

theorem encodeChar_high {c : Char} (hc : 0x80 ≤ c.toNat) : ∀ b ∈ encodeChar c, 0x80 ≤ b.toNat := by
  have hlast : c.toNat < 0x110000 := by
    rcases c.valid with h | h
    · exact Nat.lt_trans h (by decide)
    · exact h.2
  have hbyte : ∀ n, 0x80 ≤ n → n < 256 → 0x80 ≤ (UInt8.ofNat n).toNat := fun n hlow hhigh => by
    rw [UInt8.toNat_ofNat_of_lt' (by simpa [UInt8.size] using hhigh)]
    exact hlow
  unfold encodeChar
  generalize c.toNat = n at hc hlast
  dsimp only
  rw [if_neg (by omega)]
  split
  · simp only [List.forall_mem_cons]
    exact ⟨hbyte _ (by omega) (by omega), hbyte _ (by omega) (by omega), nofun⟩
  split
  · simp only [List.forall_mem_cons]
    exact ⟨hbyte _ (by omega) (by omega), hbyte _ (by omega) (by omega), hbyte _ (by omega) (by omega), nofun⟩
  · simp only [List.forall_mem_cons]
    exact ⟨hbyte _ (by omega) (by omega), hbyte _ (by omega) (by omega), hbyte _ (by omega) (by omega),
      hbyte _ (by omega) (by omega), nofun⟩

/-- **An ASCII byte is written for its character alone.** -/
theorem Faithful.mem_encodeGlyphs {t : List Glyph} (h : Faithful t) {b : UInt8} (hb : b.toNat < 0x80) :
    b ∈ encodeGlyphs t ↔ .char (Char.ofNat b.toNat) ∈ t := by
  unfold encodeGlyphs
  rw [List.mem_flatMap]
  constructor
  · rintro ⟨g, hg, hmem⟩
    cases g with
    | raw r =>
      obtain rfl := List.mem_singleton.1 hmem
      exact absurd hb (Nat.not_lt.2 (h b hg))
    | char c =>
      change b ∈ encodeChar c at hmem
      by_cases hc : 0x80 ≤ c.toNat
      · exact absurd hb (Nat.not_lt.2 (encodeChar_high hc b hmem))
      · rw [← Char.ofNat_toNat c, encodeChar_one (by omega)] at hmem
        rw [List.mem_singleton.1 hmem, UInt8.toNat_ofNat_of_lt' (by simp [UInt8.size]; omega), Char.ofNat_toNat]
        exact hg
  · intro hg
    refine ⟨_, hg, ?_⟩
    change b ∈ encodeChar (Char.ofNat b.toNat)
    rw [encodeChar_one hb, UInt8.ofNat_toNat]
    exact List.mem_singleton_self b

/-! ## Line terminators -/

/-- A carriage return, alone or before a newline, is a newline. -/
def unifiedBytes : Bytes → Bytes
  | [] => []
  | [b] => if b = 13 then [10] else [b]
  | b :: c :: rest =>
    if b = 13 then if c = 10 then 10 :: unifiedBytes rest else 10 :: unifiedBytes (c :: rest)
    else b :: unifiedBytes (c :: rest)

theorem unifiedBytes_cons {b : UInt8} (hb : b ≠ 13) : ∀ bs, unifiedBytes (b :: bs) = b :: unifiedBytes bs
  | [] => if_neg hb
  | _ :: _ => if_neg hb

theorem unifiedBytes_append : ∀ {xs : Bytes}, 13 ∉ xs → ∀ ys, unifiedBytes (xs ++ ys) = xs ++ unifiedBytes ys
  | [], _, _ => rfl
  | x :: xs, h, ys => by
    have hx : x ≠ 13 := fun hx => h (hx ▸ List.mem_cons_self)
    rw [List.cons_append, unifiedBytes_cons hx, unifiedBytes_append fun hmem => h (List.mem_cons_of_mem x hmem)]
    rfl

theorem unifiedBytes_return {bs : Bytes} (h : bs.head? ≠ some 10) :
    unifiedBytes (13 :: bs) = 10 :: unifiedBytes bs := by
  cases bs with
  | nil => rfl
  | cons c bs =>
    have hc : c ≠ 10 := fun hc => h (congrArg some hc)
    rw [unifiedBytes, if_pos rfl, if_neg hc]

theorem not_mem_unifiedBytes : ∀ bs, 13 ∉ unifiedBytes bs
  | [] => List.not_mem_nil
  | [b] => by
    unfold unifiedBytes
    split
    · decide
    · rename_i hb
      exact fun h => hb (List.mem_singleton.1 h).symm
  | b :: c :: rest => by
    unfold unifiedBytes
    have hnewline : ∀ bs : Bytes, 13 ∉ bs → 13 ∉ (10 : UInt8) :: bs := fun bs h hmem =>
      h ((List.mem_cons.1 hmem).resolve_left (by decide))
    split
    · split
      · exact hnewline _ (not_mem_unifiedBytes rest)
      · exact hnewline _ (not_mem_unifiedBytes (c :: rest))
    · rename_i hb
      exact fun h => not_mem_unifiedBytes (c :: rest) ((List.mem_cons.1 h).resolve_left fun heq => hb heq.symm)

/-- **Only a carriage return is changed.** -/
theorem unifiedBytes_eq_self_iff (bs : Bytes) : unifiedBytes bs = bs ↔ 13 ∉ bs := by
  constructor
  · exact fun h => h ▸ not_mem_unifiedBytes bs
  · intro h
    have hall := unifiedBytes_append h []
    rwa [List.append_nil, show unifiedBytes [] = [] from rfl, List.append_nil] at hall

theorem Glyph.view_char (c : Char) : CharLike.view (Glyph.char c) = c := rfl

theorem Glyph.view_eq_iff {g : Glyph} {c : Char} (hc : c ≠ replacement) : CharLike.view g = c ↔ g = .char c := by
  constructor
  · intro h
    cases g with
    | char d => exact congrArg Glyph.char h
    | raw b => exact absurd h.symm hc
  · rintro rfl
    rfl

theorem Glyph.view_ne_of_not_mem {t : List Glyph} {c : Char} (hc : c ≠ replacement) (h : Glyph.char c ∉ t) :
    ∀ g ∈ t, CharLike.view g ≠ c :=
  fun _ hg hview => h ((Glyph.view_eq_iff hc).1 hview ▸ hg)

theorem Glyph.exists_encode (g : Glyph) : ∃ b bs, g.encode = b :: bs := by
  cases g with
  | raw b => exact ⟨b, [], rfl⟩
  | char c =>
    obtain ⟨b, bs, hencode, -⟩ := exists_encodeChar_eq_cons c
    exact ⟨b, bs, hencode⟩

theorem encodeGlyphs_cons (g : Glyph) (t : List Glyph) : encodeGlyphs (g :: t) = g.encode ++ encodeGlyphs t :=
  List.flatMap_cons

theorem Faithful.not_mem_encode {g : Glyph} {t : List Glyph} (h : Faithful (g :: t)) {b : UInt8} (hb : b.toNat < 0x80)
    (hg : g ≠ .char (Char.ofNat b.toNat)) : b ∉ g.encode := by
  have hone : Faithful [g] := h.of_subset fun x hx => List.mem_singleton.1 hx ▸ List.mem_cons_self
  intro hmem
  have hunit := (hone.mem_encodeGlyphs hb).1 (by rw [encodeGlyphs_cons]; exact List.mem_append_left _ hmem)
  exact hg (List.mem_singleton.1 hunit).symm

theorem Faithful.head?_ne_newline {g : Glyph} {t : List Glyph} (h : Faithful (g :: t)) (hg : g ≠ .char '\n') :
    (encodeGlyphs (g :: t)).head? ≠ some 10 := by
  obtain ⟨b, bs, hencode⟩ := g.exists_encode
  rw [encodeGlyphs_cons, hencode]
  rintro hhead
  refine h.not_mem_encode (b := 10) (by decide) hg ?_
  rw [hencode, Option.some.inj hhead]
  exact List.mem_cons_self

/-- **Reading line terminators as newlines**, told on the bytes. -/
theorem Faithful.encodeGlyphs_unifyNewlines : ∀ {t : List Glyph}, Faithful t →
    encodeGlyphs (unifyNewlines t) = unifiedBytes (encodeGlyphs t)
  | [], _ => rfl
  | [g], h => by
    by_cases hg : g = .char '\r'
    · subst hg
      rfl
    · have hreturn := h.not_mem_encode (b := 13) (by decide) hg
      have hall := unifiedBytes_append hreturn []
      rw [unifyNewlines, if_neg (fun hview => hg ((Glyph.view_eq_iff (by decide)).1 hview))]
      exact hall.symm
  | g :: d :: t, h => by
    have hrest : Faithful (d :: t) := h.of_subset fun x hx => List.mem_cons_of_mem g hx
    have hlast : Faithful t := hrest.of_subset fun x hx => List.mem_cons_of_mem d hx
    rw [unifyNewlines]
    by_cases hg : g = .char '\r'
    · subst hg
      rw [if_pos (Glyph.view_char _)]
      by_cases hd : d = .char '\n'
      · subst hd
        rw [if_pos (Glyph.view_char _), encodeGlyphs_cons, hlast.encodeGlyphs_unifyNewlines]
        rfl
      · rw [if_neg (fun hview => hd ((Glyph.view_eq_iff (by decide)).1 hview)), encodeGlyphs_cons,
          hrest.encodeGlyphs_unifyNewlines, encodeGlyphs_cons (.char '\r')]
        exact (unifiedBytes_return (hrest.head?_ne_newline hd)).symm
    · have hreturn := h.not_mem_encode (b := 13) (by decide) hg
      rw [if_neg (fun hview => hg ((Glyph.view_eq_iff (by decide)).1 hview)), encodeGlyphs_cons,
        hrest.encodeGlyphs_unifyNewlines, encodeGlyphs_cons g, unifiedBytes_append hreturn]

/-! ## Lines -/

theorem encodeGlyphs_joinWith : ∀ ls : List (List Glyph),
    encodeGlyphs (joinWith [newlineMark] ls) = joinWith [10] (ls.map encodeGlyphs)
  | [] => rfl
  | [l] => rfl
  | l :: m :: ls => by
    rw [joinWith_cons [newlineMark] l (List.cons_ne_nil m ls), List.map_cons, List.map_cons,
      joinWith_cons [10] _ (List.cons_ne_nil _ _), ← List.map_cons, ← encodeGlyphs_joinWith (m :: ls)]
    unfold encodeGlyphs
    rw [List.flatMap_append, List.flatMap_append]
    rfl

/-- **The lines of what is written** are the lines of the units. -/
theorem Faithful.splitOn_encodeGlyphs {t : List Glyph} (h : Faithful t) :
    splitOn 10 (encodeGlyphs t) = (splitOn newlineMark t).map encodeGlyphs := by
  have hlines : ∀ l ∈ (splitOn newlineMark t).map encodeGlyphs, 10 ∉ l := by
    intro l hl
    obtain ⟨line, hline, rfl⟩ := List.mem_map.1 hl
    have hfaithful : Faithful line := h.of_subset fun g hg => mem_of_mem_splitOn hline hg
    rw [hfaithful.mem_encodeGlyphs (by decide)]
    exact not_mem_of_mem_splitOn newlineMark t line hline
  conv => lhs; rw [← joinWith_splitOn newlineMark t, encodeGlyphs_joinWith]
  exact splitOn_joinWith 10 _ (fun hnil => splitOn_ne_nil _ t (List.map_eq_nil_iff.1 hnil)) hlines

end EnvAudit
