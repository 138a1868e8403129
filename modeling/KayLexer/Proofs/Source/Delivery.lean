import KayLexer.Source.Basic

/-!
What a source delivers. Reading a character moves the position of the source over it, nothing else
does, and a failure carries the position that the source stands at. A source that gives a text and
then a last result is followed through the text read by read.
-/

namespace KayLexer

namespace ByteSource

theorem position_refill (s : ByteSource) : s.refill.2.position = s.position := by
  fun_induction refill s <;> simp_all

theorem path_refill (s : ByteSource) : s.refill.2.path = s.path := by
  fun_induction refill s <;> simp_all

/-- What is reported of a lost character is the path, and the position of the source. -/
theorem eq_of_refill_unreadable {s : ByteSource} {e : Unreadable}
    (h : s.refill.1 = .error (.unreadable e)) : e = ⟨s.path, s.position, e.reason⟩ := by
  have decoding (d : Encoding.DecodeError) (hd : s.decodeError d = .unreadable e) :
      e = ⟨s.path, s.position, e.reason⟩ := by
    cases d <;> cases hd
    rfl
  fun_induction refill s with
  | case1 | case3 | case6 => cases h
  | case2 => cases h; rfl
  | case4 s stream hs err hf => exact decoding err (Except.error.inj h)
  | case5 s stream b hb decoder hd ih => exact ih h decoding
  | case7 s stream b hb err decoder hd => exact decoding err (Except.error.inj h)

/-- A read leaves what refilling leaves, where it does not matter which characters are given. -/
theorem read_invariant {P : ByteSource → Prop} {s : ByteSource}
    (deliver : ∀ {s c cs}, P s → P (s.deliver c cs)) (hs : P s) (hr : P s.refill.2) :
    P s.read.2 := by
  unfold read
  split
  · exact deliver hs
  · split
    · next h =>
      rw [h] at hr
      exact deliver hr
    all_goals
      next h =>
        rw [h] at hr
        exact hr

theorem position_read {s : ByteSource} {c : Char} (h : s.read.1 = .ok (some c)) :
    s.read.2.position = s.position.after c := by
  have hp := s.position_refill
  unfold read at h ⊢
  split at h
  · cases h
    rfl
  · split at h <;> cases h
    next hr =>
      rw [hr] at hp
      exact congrArg (·.after c) hp

/-- A read that gives no character leaves the position as it is. -/
theorem position_read_of_ne {s : ByteSource} (h : ∀ c, s.read.1 ≠ .ok (some c)) :
    s.read.2.position = s.position := by
  have hp := s.position_refill
  unfold read at h ⊢
  split at h
  · next c cs _ => exact absurd rfl (h c)
  · split at h
    · next c cs _ _ => exact absurd rfl (h c)
    all_goals
      next hr =>
        rw [hr] at hp
        exact hp

theorem path_read (s : ByteSource) : s.read.2.path = s.path :=
  read_invariant (P := fun t => t.path = s.path) id rfl s.path_refill

theorem eq_of_unreadable {s : ByteSource} {e : Unreadable}
    (h : s.read.1 = .error (.unreadable e)) : e = ⟨s.path, s.position, e.reason⟩ := by
  unfold read at h
  split at h
  · cases h
  · split at h <;> cases h
    next hr => exact eq_of_refill_unreadable (congrArg Prod.fst hr)

theorem position_of_unreadable {s : ByteSource} {e : Unreadable}
    (h : s.read.1 = .error (.unreadable e)) : e.position = s.position :=
  congrArg Unreadable.position (eq_of_unreadable h)

end ByteSource

namespace Source

theorem position_read {s : Source} {c : Char} (h : s.read.1 = .ok (some c)) :
    s.read.2.position = s.position.after c := by
  cases s with
  | text s =>
    cases hr : s.rest with
    | nil => simp [read, TextSource.read_nil hr] at h
    | cons d ds =>
      rw [read, TextSource.read_cons hr] at h ⊢
      cases h
      rfl
  | bytes s => exact ByteSource.position_read h

theorem position_of_unreadable {s : Source} {e : Unreadable}
    (h : s.read.1 = .error (.unreadable e)) : e.position = s.position := by
  cases s with
  | text s => cases h
  | bytes s => exact ByteSource.position_of_unreadable h

/-- The source gives the characters of a text, one at each read, and is then `last`. -/
def Delivers (s : Source) (last : Source) : List Char → Prop
  | [] => s = last
  | c :: cs => s.read.1 = .ok (some c) ∧ s.read.2.Delivers last cs

theorem Delivers.position {s last : Source} {cs : List Char} (h : s.Delivers last cs) :
    last.position = s.position.afterText cs := by
  induction cs generalizing s with
  | nil => rw [← h]; rfl
  | cons c cs ih => rw [ih h.2, position_read h.1, Position.afterText_cons]

theorem Delivers.append {s m last : Source} {cs ds : List Char} (h : s.Delivers m cs)
    (h' : m.Delivers last ds) : s.Delivers last (cs ++ ds) := by
  induction cs generalizing s with
  | nil =>
    cases h
    exact h'
  | cons c cs ih => exact ⟨h.1, ih h.2⟩

/-! ### Reading on behind the end -/

/-- What a number of reads give, each with the position of the source behind it. -/
def reads (s : Source) : Nat → List (Except ReadError (Option Char) × Position)
  | 0 => []
  | n + 1 => (s.read.1, s.read.2.position) :: s.read.2.reads n

/-- Nothing is left, however often the source is read. -/
def Exhausted (s : Source) : Prop := ∀ n, s.reads n = List.replicate n (.ok none, s.position)

theorem Exhausted.read {s : Source} (h : s.Exhausted) : s.read.1 = .ok none :=
  congrArg Prod.fst (List.cons.inj (h 1)).1

/-- A source is exhausted if it is one of those that nothing happens to. -/
theorem Exhausted.of_step {P : Source → Prop} {s : Source} (hs : P s)
    (step : ∀ s, P s → s.read.1 = .ok none ∧ P s.read.2 ∧ s.read.2.position = s.position) :
    s.Exhausted := by
  intro n
  induction n generalizing s with
  | zero => rfl
  | succ n ih =>
    obtain ⟨hr, hs', hp⟩ := step s hs
    rw [reads, ih hs', hr, hp, List.replicate_succ]

/-- A text is delivered whole, and nothing is behind it. -/
theorem delivers_text (s : TextSource) : ∃ last : Source,
    (text s).Delivers last s.rest ∧ last.Exhausted := by
  obtain ⟨rest, position, reads⟩ := s
  induction rest generalizing position reads with
  | nil =>
    refine ⟨_, rfl, .of_step (P := fun s => ∃ p n, s = text ⟨[], p, n⟩) ⟨position, reads, rfl⟩ ?_⟩
    rintro _ ⟨p, n, rfl⟩
    exact ⟨rfl, ⟨p, n + 1, rfl⟩, rfl⟩
  | cons c cs ih =>
    obtain ⟨last, hd, hl⟩ := ih (position.after c) (reads + 1)
    exact ⟨last, ⟨rfl, hd⟩, hl⟩

/-- The source behind all of a text. -/
theorem delivers_rest (rest : List Char) (p : Position) (n : Nat) : (text ⟨rest, p, n⟩).Delivers
    (text ⟨[], p.afterText rest, n + rest.length⟩) rest := by
  induction rest generalizing p n with
  | nil => rfl
  | cons c cs ih =>
    refine ⟨rfl, ?_⟩
    rw [List.length_cons, ← Nat.add_assoc, Nat.add_right_comm]
    exact ih (p.after c) (n + 1)

/-- What has only a text to give is a source over that text. -/
theorem Delivers.eq_text {s : Source} {p : Position} {n : Nat} {cs : List Char}
    (h : s.Delivers (text ⟨[], p, n⟩) cs) :
    ∃ m, m + cs.length = n ∧ s = text ⟨cs, s.position, m⟩ := by
  induction cs generalizing s with
  | nil =>
    cases h
    exact ⟨n, rfl, rfl⟩
  | cons c cs ih =>
    obtain ⟨hr, h⟩ := h
    obtain ⟨m, hm, hs⟩ := ih h
    cases s with
    | bytes b => cases hs
    | text u =>
      obtain ⟨rest, q, k⟩ := u
      cases rest with
      | nil => cases hr
      | cons d ds =>
        cases hr
        cases hs
        have hm : k + 1 + cs.length = n := hm
        refine ⟨k, ?_, rfl⟩
        rw [List.length_cons]
        omega

end Source

end KayLexer
