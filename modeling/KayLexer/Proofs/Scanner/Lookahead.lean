import KayLexer.Proofs.Fronts
import KayLexer.Proofs.Scanner.Stream

/-!
How far a scanner looks ahead. A token is given out as soon as the character behind it is read, and
nothing is read beyond that one. Main statement: what a source has delivered behind each token, and
that the tokens given out so far depend on nothing else.
-/

namespace KayLexer.Scanner

open Position (start)

variable {s s' : Scanner} {e : Ending} {pre cs : List Char} {ts : List Token} {t : Token}

/-- **A token that is given out ends in front of what the scanner sees then.** -/
theorem Sees.nextToken_front (h : s.Sees e (start.afterText pre) cs) (hf : Front pre cs.head? ts)
    (he : e.failure = none) (hn : s.nextToken = (.ok t, s')) (ht : t.isEndOfFile = false) :
    ∃ v rest, cs = v ++ rest ∧ Front (pre ++ v) rest.head? (ts ++ [t]) ∧
      s'.Sees e (start.afterText (pre ++ v)) rest := by
  obtain ⟨us, hl⟩ := exists_lexed (start.afterText pre) cs
  generalize hp : start.afterText pre = p at h hl
  cases hl with
  | trail hg =>
    obtain ⟨s₁, hn₁, -⟩ := h.nextToken_trail hg he
    rw [hn] at hn₁
    cases hn₁
    cases ht
  | @token _ g u rest k us hg hu _ =>
    obtain ⟨s₁, hn₁, h₁⟩ := h.nextToken_lexeme hg hu (Or.inr he)
    rw [hn] at hn₁
    cases hn₁
    subst hp
    rw [hu.lexeme.head?_append] at hf
    refine ⟨g ++ u, rest, (List.append_assoc g u rest).symm, hf.token hg hu, ?_⟩
    rwa [Position.afterText_append]

/-- The tokens that calls give end in front of what the scanner sees then. -/
theorem Sees.nexts_front (h : s.Sees e (start.afterText pre) cs) (hf : Front pre cs.head? ts)
    (he : e.failure = none) {us : List Token} (hus : ∀ t ∈ us, t.isEndOfFile = false)
    (hn : (s.nexts us.length).1 = us.map .ok) :
    ∃ v rest, cs = v ++ rest ∧ Front (pre ++ v) rest.head? (ts ++ us) ∧
      (s.nexts us.length).2.Sees e (start.afterText (pre ++ v)) rest := by
  induction us generalizing s pre cs ts with
  | nil =>
    rw [← pre.append_nil] at h hf
    rw [← ts.append_nil] at hf
    exact ⟨[], cs, rfl, hf, h⟩
  | cons u us ih =>
    obtain ⟨hu, hus⟩ := List.forall_mem_cons.1 hus
    rw [List.length_cons, nexts, List.map_cons] at hn
    obtain ⟨hu', hn⟩ := List.cons.inj hn
    obtain ⟨v, rest, rfl, hf₁, h₁⟩ := h.nextToken_front hf he (Prod.ext hu' rfl) hu
    obtain ⟨w, rest, rfl, hf₂, h₂⟩ := ih h₁ hf₁ hus hn
    refine ⟨v ++ w, rest, (List.append_assoc v w rest).symm, ?_, ?_⟩
    · simpa using hf₂
    · rw [← List.append_assoc]
      exact h₂

theorem nexts_succ_last {r : Except ReadError Token} {n : Nat}
    (h : (s.nexts n).2.nextToken = (r, s')) : s.nexts (n + 1) = ((s.nexts n).1 ++ [r], s') := by
  induction n generalizing s with
  | zero =>
    have hn : s.nextToken = (r, s') := h
    rw [nexts_succ hn]
    rfl
  | succ n ih =>
    have := ih (s := s.nextToken.2) h
    rw [nexts, this]
    rfl

/-- A call that gives a token of a text, with the calls before it: their tokens end in front of what
the scanner sees then. -/
theorem front_of_nextToken {text : String} {k : Nat}
    (h : ((ofString text).nexts k).2.nextToken = (.ok t, s')) (ht : t.isEndOfFile = false) :
    ∃ (us : List Token) (e : Ending) (v rest : List Char), us.length = k ∧
      ((ofString text).nexts (k + 1)).1 = (us ++ [t]).map .ok ∧ text.toList = v ++ rest ∧
      Front v rest.head? (us ++ [t]) ∧ s'.Sees e (start.afterText v) rest ∧
      e.last = .text ⟨[], start.afterText text.toList, text.length⟩ := by
  obtain ⟨ts, hl⟩ := exists_lexed start text.toList
  have hy := yields_ofString hl
  obtain ⟨us, vs, rfl, rfl⟩ := hy.split_of_nexts h ht
  have hus : ∀ u ∈ us ++ [t], u.isEndOfFile = false := by
    intro u hu
    apply hy.not_isEndOfFile u
    rw [List.append_cons]
    exact List.mem_append_left _ hu
  have hcalls : (ofString text).nexts (us.length + 1) = ((us ++ [t]).map .ok, s') := by
    have hfirst := hy.nexts (n := us.length) (by simp)
    rw [nexts_succ_last h, hfirst]
    simp
  obtain ⟨e, s, hfresh, hs, he, hlast⟩ := exists_sees_ofString text
  have hsees : s.nexts (us ++ [t]).length = ((us ++ [t]).map .ok, s') := by
    rw [List.length_append, List.length_singleton, ← nexts_congr hfresh, hcalls]
  have hs : s.Sees e (start.afterText []) text.toList := hs
  obtain ⟨v, rest, htext, hf, hs'⟩ := hs.nexts_front .nil he hus (by rw [hsees])
  rw [hsees, List.nil_append] at hs'
  exact ⟨us, e, v, rest, rfl, by rw [hcalls], htext, hf, hs', hlast⟩

/-- **A text that goes on with the next character of a front has its tokens first.** -/
theorem nexts_of_front {text : String} {v rest : List Char} (hf : Front v rest.head? ts)
    (htext : text.toList = v ++ rest) : ((ofString text).nexts ts.length).1 = ts.map .ok := by
  obtain ⟨us, hl⟩ := exists_lexed (start.afterText v) rest
  have hall := hf.lexed rfl hl
  rw [← htext] at hall
  have := (yields_ofString hall).nexts (n := ts.length) (by simp)
  rwa [List.take_left] at this

/-- **A scanner reads one character more than it has given out, and knows no other.** The call gives
a token of the text. Then the source has delivered the text up to the end of that token and one
character more, if there is one, and was asked for that many characters; the scanner is at its end
if there is none. If there is one, any text that begins with what was delivered gives the same
tokens up to this call. -/
theorem nextToken_lookahead (text : String) (k : Nat)
    (h : ((ofString text).nexts k).2.nextToken = (.ok t, s')) (ht : t.isEndOfFile = false) :
    t.StandsIn text.toList ∧
    (∃ (source : TextSource) (given : List Char), s'.source = some (.text source) ∧
      text.toList = given ++ source.rest ∧
      given.length = min (t.stop text.toList + 1) text.length ∧
      source.reads = t.stop text.toList + 1) ∧
    (s'.atEnd = true ↔ t.stop text.toList = text.length) ∧
    (t.stop text.toList < text.length → ∀ text' : String,
      text'.toList.take (t.stop text.toList + 1) = text.toList.take (t.stop text.toList + 1) →
      ((ofString text').nexts (k + 1)).1 = ((ofString text).nexts (k + 1)).1) := by
  obtain ⟨us, e, v, rest, hk, hcalls, htext, hf, hs', hlast⟩ := front_of_nextToken h ht
  rw [htext, Position.afterText_append] at hlast
  obtain ⟨m, hm, hsource⟩ := hs'.source_text hlast
  have hstop : t.stop text.toList = v.length := by rw [htext, hf.stop]
  have hlen : text.length = v.length + rest.length := by
    rw [← String.length_toList, htext, List.length_append]
  rw [hstop]
  refine ⟨?_, ⟨_, v ++ rest.take 1, hsource, ?_, ?_, ?_⟩, ?_, ?_⟩
  · rw [htext]
    exact hf.standsIn rfl t (by simp)
  · rw [htext, List.append_assoc, ← List.drop_one, List.take_append_drop]
  · rw [List.length_append, List.length_take]
    omega
  · show m = v.length + 1
    omega
  · rw [hs'.atEnd_iff, ← List.length_eq_zero_iff]
    omega
  · intro hlt text' htake
    obtain ⟨c, cs, rfl⟩ : ∃ c cs, rest = c :: cs :=
      List.exists_cons_of_ne_nil (List.length_pos_iff.1 (by omega))
    obtain ⟨ds, hds⟩ : v ++ [c] <+: text'.toList := by
      have hvc : (v ++ [c]).length = v.length + 1 := List.length_append
      rw [htext, List.append_cons v, List.take_left' hvc] at htake
      rw [← htake]
      exact List.take_prefix _ _
    have hf : Front v (c :: ds).head? (us ++ [t]) := hf
    have hsame := nexts_of_front hf (by rw [← hds, ← List.append_cons])
    rwa [List.length_append, List.length_singleton, hk, ← hcalls] at hsame

/-- Behind an operator of two characters the source has given four of five, and what the fifth is
makes no difference. -/
theorem nextToken_lookahead_operator : ∃ s' : Scanner,
    ((ofString "a<=bc").nexts 1).2.nextToken = (.ok ⟨.operator, "<=", ⟨1, 2⟩⟩, s') ∧
    (∃ (source : TextSource) (given : List Char), s'.source = some (.text source) ∧
      "a<=bc".toList = given ++ source.rest ∧ given.length = 4 ∧ source.reads = 4) ∧
    s'.atEnd ≠ true ∧ ((ofString "a<=b(").nexts 2).1 = ((ofString "a<=bc").nexts 2).1 := by
  have h : ((ofString "a<=bc").nexts 1).2.nextToken.1 = .ok ⟨.operator, "<=", ⟨1, 2⟩⟩ := by
    with_unfolding_all rfl
  have hstop : Token.stop ⟨.operator, "<=", ⟨1, 2⟩⟩ "a<=bc".toList = 3 := by decide
  obtain ⟨-, hgiven, hend, hsame⟩ := nextToken_lookahead "a<=bc" 1 (Prod.ext h rfl) rfl
  rw [hstop] at hgiven hend hsame
  exact ⟨_, Prod.ext h rfl, hgiven, by rw [Ne, hend]; decide, hsame (by decide) "a<=b(" (by decide)⟩

end KayLexer.Scanner
