import KayLexer.Proofs.Encoding.Refusal
import KayLexer.Proofs.Encoding.RoundTrip

/-!
How characters are spelled. A decoder keeps bytes only as long as a character may begin with them,
so that the bytes it has taken are those of the characters it has given, and behind them the
beginning of one more. Main statements: a decoder that misses nothing at the end has taken the bytes
of a text, and a decoder refuses what comes next where no character stands.
-/

namespace KayLexer.Encoding

/-- What a byte comes to behind the beginning of a character: it completes a character that `P`
holds of and that `f` spells, or it makes a longer beginning, or it is refused. -/
inductive Spelled (f : Char → List UInt8) (P : Char → Prop) (Begun : List UInt8 → Prop)
    (kept : List UInt8) (b : UInt8) : Reading → Prop where
  | char {c : Char} : P c → f c = kept ++ [b] → Spelled f P Begun kept b (.chars [c])
  | incomplete : Begun (kept ++ [b]) → Spelled f P Begun kept b .incomplete
  | malformed (m : Malformed) : Spelled f P Begun kept b (.malformed m)

/-- How characters are spelled in a mode that reads as `r` does: those that `P` holds of are spelled
by `f`, and `Begun` holds of the bytes that are kept of a character. -/
structure Mode.Spells (mode : Mode) (r : List UInt8 → UInt8 → Reading) (f : Char → List UInt8)
    (P : Char → Prop) (Begun : List UInt8 → Prop) : Prop where
  settled : mode.Settled r
  nil : Begun []
  read : ∀ {kept : List UInt8} (b : UInt8), Begun kept → Spelled f P Begun kept b (r kept b)
  finish : ∀ {kept : List UInt8}, Begun kept → kept ≠ [] →
    ∃ m, mode.finish kept = some (.malformed m)

namespace Mode

variable {mode : Mode} {r : List UInt8 → UInt8 → Reading} {f : Char → List UInt8}
  {P : Char → Prop} {Begun : List UInt8 → Prop} {kept bs : List UInt8} {cs : List Char}
  {d : Decoder}

theorem Settled.feed_malformed {b : UInt8} {m : Malformed} (hm : mode.Settled r)
    (h : r kept b = .malformed m) :
    Decoder.feed ⟨mode, kept⟩ b = (.error (.malformed m), ⟨mode, mode.keptOnError kept⟩) := by
  simp [Decoder.feed, hm kept b, h, outcome]

/-- **What is taken are the bytes of what is given, and the beginning of a character.** -/
theorem Spells.of_reads (h : mode.Spells r f P Begun) (hk : Begun kept)
    (hr : Decoder.Reads ⟨mode, kept⟩ bs cs d) : ∃ kept', d = ⟨mode, kept'⟩ ∧ Begun kept' ∧
      (∀ c ∈ cs, P c) ∧ kept ++ bs = cs.flatMap f ++ kept' := by
  generalize hd : (⟨mode, kept⟩ : Decoder) = d₀ at hr
  induction hr generalizing kept with
  | nil => exact ⟨kept, hd.symm, hk, by simp, by simp⟩
  | @cons d₀ d₁ d b bs cs ds hf _ ih =>
    subst hd
    have hs := h.read b hk
    generalize hb : r kept b = x at hs
    cases hs with
    | @char c hc hfc =>
      rw [h.settled.feed_chars hb] at hf
      obtain ⟨⟨rfl⟩, rfl⟩ := Prod.mk.inj hf
      obtain ⟨kept', hd', hk', hP, hbs⟩ := ih h.nil rfl
      refine ⟨kept', hd', hk', by simpa [hc] using hP, ?_⟩
      rw [List.nil_append] at hbs
      simp [hfc, hbs]
    | incomplete hk₁ =>
      rw [h.settled.feed_incomplete hb] at hf
      obtain ⟨⟨rfl⟩, rfl⟩ := Prod.mk.inj hf
      obtain ⟨kept', hd', hk', hP, hbs⟩ := ih hk₁ rfl
      exact ⟨kept', hd', hk', hP, by simpa using hbs⟩
    | malformed m =>
      rw [h.settled.feed_malformed hb] at hf
      cases (Prod.mk.inj hf).1

/-- A decoder that misses nothing at the end has taken the bytes of a text. -/
theorem Spells.eq_flatMap (h : mode.Spells r f P Begun) (hr : Decoder.Reads ⟨mode, []⟩ bs cs d)
    (hf : d.finish = none) : (∀ c ∈ cs, P c) ∧ bs = cs.flatMap f := by
  obtain ⟨kept, rfl, hk, hP, hbs⟩ := h.of_reads h.nil hr
  cases kept with
  | nil => exact ⟨hP, by simpa using hbs⟩
  | cons a kept =>
    obtain ⟨m, hm⟩ := h.finish hk (List.cons_ne_nil a kept)
    rw [Decoder.finish, hm] at hf
    cases hf

/-- **Where no character stands, the decoder refuses what comes next.** -/
theorem Spells.refuses (h : mode.Spells r f P Begun) (hk : Begun kept) (hne : kept ++ bs ≠ [])
    (hn : ∀ c, P c → ¬ f c <+: kept ++ bs) :
    ∃ m, Decoder.Refuses ⟨mode, kept⟩ (bs.map .byte) (.malformed m) := by
  induction bs generalizing kept with
  | nil =>
    obtain ⟨m, hm⟩ := h.finish hk (by simpa using hne)
    exact ⟨m, .ending hm⟩
  | cons b bs ih =>
    have happ : kept ++ b :: bs = kept ++ [b] ++ bs := by simp
    have hs := h.read b hk
    generalize hb : r kept b = x at hs
    cases hs with
    | @char c hc hfc => exact absurd ⟨bs, by rw [hfc, happ]⟩ (hn c hc)
    | incomplete hk₁ =>
      rw [happ] at hn
      obtain ⟨m, hm⟩ := ih hk₁ (by simp) hn
      exact ⟨m, .later (h.settled.feed_incomplete hb) hm⟩
    | malformed m => exact ⟨m, .byte (h.settled.feed_malformed hb)⟩

end Mode

theorem toNat_ofNat {n : Nat} (h : n.isValidChar) : (Char.ofNat n).toNat = n := by
  rw [Char.ofNat, dif_pos h]
  rfl

theorem byte_eq {n : Nat} {b : UInt8} (h : n = b.toNat) : UInt8.ofNat n = b := by
  rw [h, UInt8.ofNat_toNat]

/-! ### UTF-8 -/

namespace Utf8

/-- The bytes that are kept of a character. Among them is the beginning of a surrogate, which is
refused only later. -/
inductive Begun : List UInt8 → Prop where
  | nil : Begun []
  | first {a : UInt8} : 0xc2 ≤ a.toNat → a.toNat < 0xf5 → Begun [a]
  | second {a b : UInt8} : isSecond a b = true → 0xe0 ≤ a.toNat → a.toNat < 0xf5 → Begun [a, b]
  | surrogate {a b : UInt8} : beginsSurrogate a b = true → Begun [a, b]
  | third {a b c : UInt8} : isSecond a b = true → isContinuation c = true → 0xf0 ≤ a.toNat →
      a.toNat < 0xf5 → Begun [a, b, c]

variable {a b c d : UInt8} {n : Nat}

theorem continuation_eq (hb : isContinuation b) (h : n % 0x40 = payload b) :
    continuation n = b := by
  rw [isContinuation_iff] at hb
  exact byte_eq (by rw [h, payload]; omega)

theorem isContinuation_of_isSecond (h : isSecond a b) : isContinuation b := by
  rw [isSecond_iff] at h
  rw [isContinuation_iff]
  exact ⟨h.1, h.2.1⟩

theorem encodeChar_one (h : a.toNat < 0x80) : String.utf8EncodeChar (Char.ofNat a.toNat) = [a] := by
  have hn : (Char.ofNat a.toNat).val.toNat = a.toNat := toNat_ofNat (Or.inl (by omega))
  rw [String.utf8EncodeChar, hn]
  rw [if_pos (by omega), UInt8.ofNat_toNat]

theorem encodeChar_two (ha : 0xc2 ≤ a.toNat) (ha' : a.toNat < 0xe0) (hb : isSecond a b) :
    String.utf8EncodeChar (char2 a b) = [a, b] := by
  have hc := isContinuation_of_isSecond hb
  have hp : payload b < 0x40 := Nat.mod_lt _ (by decide)
  generalize hn : a.toNat % 0x20 * 0x40 + payload b = n
  have hv : (char2 a b).val.toNat = n := by
    rw [char2, hn]
    exact toNat_ofNat (Or.inl (by omega))
  have h₁ : UInt8.ofNat (n / 64 % 0x20 + 0xc0) = a := byte_eq (by omega)
  have h₂ : continuation n = b := continuation_eq hc (by omega)
  rw [String.utf8EncodeChar, hv]
  rw [if_neg (by omega), if_pos (by omega), h₁]
  rw [continuation] at h₂
  rw [h₂]

theorem encodeChar_three (ha : 0xe0 ≤ a.toNat) (ha' : a.toNat < 0xf0) (hb : isSecond a b)
    (hc : isContinuation c) : String.utf8EncodeChar (char3 a b c) = [a, b, c] := by
  have hcb := isContinuation_of_isSecond hb
  have hpb : payload b = b.toNat % 0x40 := rfl
  have hpc : payload c < 0x40 := Nat.mod_lt _ (by decide)
  rw [isSecond_iff] at hb
  generalize hn : a.toNat % 0x10 * 0x1000 + payload b * 0x40 + payload c = n
  have hv : (char3 a b c).val.toNat = n := by
    rw [char3, hn]
    -- neither an overlong form nor a surrogate, by the second byte
    exact toNat_ofNat (by rw [Nat.isValidChar]; omega)
  have h₁ : UInt8.ofNat (n / 4096 % 0x10 + 0xe0) = a := byte_eq (by omega)
  have h₂ : continuation (n / 64) = b := continuation_eq hcb (by omega)
  have h₃ : continuation n = c := continuation_eq hc (by omega)
  rw [String.utf8EncodeChar, hv]
  rw [if_neg (by omega), if_neg (by omega), if_pos (by omega), h₁]
  rw [continuation] at h₂ h₃
  rw [h₂, h₃]

theorem encodeChar_four (ha : 0xf0 ≤ a.toNat) (ha' : a.toNat < 0xf5) (hb : isSecond a b)
    (hc : isContinuation c) (hd : isContinuation d) :
    String.utf8EncodeChar (char4 a b c d) = [a, b, c, d] := by
  have hcb := isContinuation_of_isSecond hb
  have hpb : payload b = b.toNat % 0x40 := rfl
  have hpc : payload c < 0x40 := Nat.mod_lt _ (by decide)
  have hpd : payload d < 0x40 := Nat.mod_lt _ (by decide)
  rw [isSecond_iff] at hb
  generalize hn :
    a.toNat % 0x8 * 0x40000 + payload b * 0x1000 + payload c * 0x40 + payload d = n
  have hv : (char4 a b c d).val.toNat = n := by
    rw [char4, hn]
    exact toNat_ofNat (by rw [Nat.isValidChar]; omega)
  have h₁ : UInt8.ofNat (n / 262144 % 0x08 + 0xf0) = a := byte_eq (by omega)
  have h₂ : continuation (n / 4096) = b := continuation_eq hcb (by omega)
  have h₃ : continuation (n / 64) = c := continuation_eq hc (by omega)
  have h₄ : continuation n = d := continuation_eq hd (by omega)
  rw [String.utf8EncodeChar, hv]
  rw [if_neg (by omega), if_neg (by omega), if_neg (by omega), h₁]
  rw [continuation] at h₂ h₃ h₄
  rw [h₂, h₃, h₄]

theorem read_stray (h₁ : ¬ b.toNat < 0x80) (h₂ : ¬ (0xc2 ≤ b.toNat ∧ b.toNat < 0xf5)) :
    read [] b = .malformed ⟨.utf8, b, [], .startByte⟩ := by
  have hl : length? b = none := by
    rw [length?_eq, if_neg h₁, if_neg (by omega), if_neg (by omega), if_neg (by omega)]
  simp [read, hl]

/-- **A byte behind the beginning of a character completes it, or continues it, or is refused.** -/
theorem Begun.read {kept : List UInt8} (b : UInt8) (h : Begun kept) :
    Spelled String.utf8EncodeChar (fun _ => True) Begun kept b (read kept b) := by
  cases h with
  | nil =>
    by_cases h₁ : b.toNat < 0x80
    · rw [read_single h₁]
      exact .char trivial (encodeChar_one h₁)
    by_cases h₂ : 0xc2 ≤ b.toNat ∧ b.toNat < 0xf5
    · rw [read_first h₂.1 h₂.2]
      exact .incomplete (.first h₂.1 h₂.2)
    · rw [read_stray h₁ h₂]
      exact .malformed _
  | @first a ha ha' =>
    by_cases hb : isSecond a b
    · rw [read_second hb]
      split
      · next h => exact .char trivial (encodeChar_two ha h hb)
      · next h => exact .incomplete (.second hb (by omega) ha')
    · rw [Utf8.read, if_neg hb]
      split
      · next hs => exact .incomplete (.surrogate hs)
      · exact .malformed _
  | @second a a₂ hs ha ha' =>
    by_cases hb : isContinuation b
    · rw [read_third hs hb]
      split
      · next h => exact .char trivial (encodeChar_three ha h hs hb)
      · next h => exact .incomplete (.third hs hb (by omega) ha')
    · rw [Utf8.read, beginsSurrogate_of_isSecond hs, if_neg (by simp), if_neg hb]
      exact .malformed _
  | surrogate hs =>
    rw [Utf8.read, if_pos hs]
    exact .malformed _
  | @third a a₂ a₃ hs hc ha ha' =>
    by_cases hb : isContinuation b
    · rw [read_fourth hb]
      exact .char trivial (encodeChar_four ha ha' hs hc hb)
    · rw [Utf8.read, if_neg hb]
      exact .malformed _

theorem exists_finish {kept : List UInt8} (h : kept ≠ []) : ∃ m, Utf8.finish kept = some m := by
  unfold Utf8.finish
  split
  · exact absurd rfl h
  · split
    all_goals exact ⟨_, rfl⟩
  · exact ⟨_, rfl⟩

theorem spells : Mode.Spells .utf8 read String.utf8EncodeChar (fun _ => True) Begun where
  settled := Mode.settled_utf8
  nil := .nil
  read := Begun.read
  finish _ hne := by
    obtain ⟨m, hm⟩ := exists_finish hne
    exact ⟨m, by rw [Mode.finish, hm]; rfl⟩

end Utf8

/-! ### UTF-16 -/

/-- Two bytes are those of their unit. -/
theorem ByteOrder.bytes_unit (order : ByteOrder) (a b : UInt8) :
    order.bytes (order.unit a b) = [a, b] := by
  have ha := a.toNat_lt
  have hb := b.toNat_lt
  cases order with
  | littleEndian => simp [bytes, unit, UInt8.ofNat_eq_iff_mod_eq_toNat]; omega
  | bigEndian => simp [bytes, unit, UInt8.ofNat_eq_iff_mod_eq_toNat]; omega

theorem ByteOrder.unit_lt (order : ByteOrder) (a b : UInt8) : order.unit a b < 0x10000 := by
  have ha := a.toNat_lt
  have hb := b.toNat_lt
  cases order
  all_goals
    simp only [unit]
    omega

namespace Utf16

/-- The bytes that are kept of a character. -/
inductive Begun (order : ByteOrder) : List UInt8 → Prop where
  | nil : Begun order []
  | first (a : UInt8) : Begun order [a]
  | lead {a b : UInt8} : isLead (order.unit a b) = true → Begun order [a, b]
  | third {a b : UInt8} (c : UInt8) : isLead (order.unit a b) = true → Begun order [a, b, c]

variable {order : ByteOrder} {a b : UInt8}

theorem encodeChar_unit (hl : ¬ isLead (order.unit a b)) (ht : ¬ isTrail (order.unit a b)) :
    encodeChar order (Char.ofNat (order.unit a b)) = [a, b] := by
  have hu := order.unit_lt a b
  rw [isLead_iff] at hl
  rw [isTrail_iff] at ht
  have hn : (Char.ofNat (order.unit a b)).toNat = order.unit a b :=
    toNat_ofNat (by rw [Nat.isValidChar]; omega)
  rw [encodeChar, hn, if_pos hu, order.bytes_unit]

theorem encodeChar_pair {a₁ a₂ : UInt8} (hl : isLead (order.unit a₁ a₂))
    (ht : isTrail (order.unit a b)) :
    encodeChar order (pair (order.unit a₁ a₂) (order.unit a b)) = [a₁, a₂, a, b] := by
  rw [isLead_iff] at hl
  rw [isTrail_iff] at ht
  have h₁ := order.bytes_unit a₁ a₂
  have h₂ := order.bytes_unit a b
  generalize order.unit a₁ a₂ = u at hl h₁
  generalize order.unit a b = v at ht h₂
  have hn : (pair u v).toNat = 0x10000 + (u - 0xd800) * 0x400 + (v - 0xdc00) :=
    toNat_ofNat (by rw [Nat.isValidChar]; omega)
  have hu : 0xd800 + ((pair u v).toNat - 0x10000) / 0x400 = u := by omega
  have hv : 0xdc00 + ((pair u v).toNat - 0x10000) % 0x400 = v := by omega
  rw [encodeChar, if_neg (by omega), hu, hv, h₁, h₂]
  rfl

/-- **A byte behind the beginning of a character completes it, or continues it, or is refused.** -/
theorem Begun.read {kept : List UInt8} (b : UInt8) (h : Begun order kept) :
    Spelled (encodeChar order) (fun _ => True) (Begun order) kept b (read order kept b) := by
  cases h with
  | nil => exact .incomplete (.first b)
  | first a =>
    simp only [Utf16.read]
    split
    · next hl => exact .incomplete (.lead hl)
    · next hl =>
      split
      · exact .malformed _
      · next ht => exact .char trivial (encodeChar_unit hl ht)
  | lead hl => exact .incomplete (.third b hl)
  | third c hl =>
    simp only [Utf16.read]
    split
    · next ht => exact .char trivial (encodeChar_pair hl ht)
    · exact .malformed _

theorem exists_finish (order : ByteOrder) {kept : List UInt8} (h : kept ≠ []) :
    ∃ m, Utf16.finish order kept = some m := by
  unfold Utf16.finish
  split
  · exact absurd rfl h
  all_goals exact ⟨_, rfl⟩

theorem spells (order : ByteOrder) :
    Mode.Spells (.utf16 order) (read order) (encodeChar order) (fun _ => True) (Begun order) where
  settled := Mode.settled_utf16 order
  nil := .nil
  read := Begun.read
  finish _ hne := by
    obtain ⟨m, hm⟩ := exists_finish order hne
    exact ⟨m, by rw [Mode.finish, hm]; rfl⟩

end Utf16

/-! ### One byte for each character -/

theorem byteOf_ofNat (b : UInt8) : byteOf (Char.ofNat b.toNat) = b := by
  have hb := b.toNat_lt
  rw [byteOf, toNat_ofNat (by rw [Nat.isValidChar]; omega), UInt8.ofNat_toNat]

theorem Ascii.spells : Mode.Spells .ascii (fun _ => Ascii.read) (fun c => [byteOf c])
    (fun c => c.toNat < 0x80) (· = []) where
  settled := Mode.settled_ascii
  nil := rfl
  read b hk := by
    subst hk
    simp only [Ascii.read]
    split
    · next hb =>
      rw [UInt8.lt_iff_toNat_lt] at hb
      refine .char ?_ (by rw [byteOf_ofNat]; rfl)
      rwa [toNat_ofNat (Or.inl (Nat.lt_trans hb (by decide)))]
    · exact .malformed _
  finish hk hne := absurd hk hne

theorem Latin1.spells : Mode.Spells .latin1 (fun _ => Latin1.read) (fun c => [byteOf c])
    (fun c => c.toNat < 0x100) (· = []) where
  settled := Mode.settled_latin1
  nil := rfl
  read b hk := by
    subst hk
    have hb := b.toNat_lt
    refine .char ?_ (by rw [byteOf_ofNat]; rfl)
    rwa [toNat_ofNat (by rw [Nat.isValidChar]; omega)]
  finish hk hne := absurd hk hne

end KayLexer.Encoding
