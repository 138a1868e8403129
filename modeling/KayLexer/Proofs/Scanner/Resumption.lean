import KayLexer.Proofs.Rebasing
import KayLexer.Proofs.Tokenization

/-!
Scanning from the middle of a text. All that a scanner knows of the text before its lookahead is a
position, so a new scanner may take over at any place. Main statement: a scanner of a text of which
some characters were read already gives the tokens of the rest, moved to where the rest begins, and
behind a token these are the tokens that stand behind it in the whole text.
-/

namespace KayLexer

open Position (start)

/-! ### Sources in the middle of a text -/

namespace Source

/-- The source behind a number of reads. -/
def after (s : Source) : Nat → Source
  | 0 => s
  | k + 1 => s.read.2.after k

/-- Reads take characters off the front of a text, as long as there are any. -/
theorem after_text (cs : List Char) (p : Position) (n k : Nat) :
    (text ⟨cs, p, n⟩).after k = text ⟨cs.drop k, p.afterText (cs.take k), n + k⟩ := by
  induction k generalizing cs p n with
  | zero => simp [after]
  | succ k ih =>
    have hcount : n + 1 + k = n + (k + 1) := by omega
    cases cs with
    | nil =>
      have hread : (text ⟨[], p, n⟩).read.2 = text ⟨[], p, n + 1⟩ := rfl
      rw [after, hread, ih, hcount]
      simp
    | cons c cs =>
      have hread : (text ⟨c :: cs, p, n⟩).read.2 = text ⟨cs, p.after c, n + 1⟩ := rfl
      rw [after, hread, ih, hcount]
      simp

end Source

/-! ### The tokens behind a token -/

/-- **Behind a token the rest of a text falls into the rest of the tokens.** -/
theorem Lexed.behind (pre : List Char) {cs : List Char} {us vs : List Token} {t : Token}
    (h : Lexed (start.afterText pre) cs (us ++ t :: vs)) : ∃ v rest, cs = v ++ rest ∧
      t.stop (pre ++ cs) = (pre ++ v).length ∧ Lexed (start.afterText (pre ++ v)) rest vs := by
  induction us generalizing pre cs with
  | nil =>
    rw [List.nil_append] at h
    cases h with
    | @token _ g u rest k _ _ _ hr =>
      refine ⟨g ++ u, rest, by simp, ?_, ?_⟩
      · have hstop := stop_tokenBehind pre g u rest k
        unfold tokenBehind at hstop
        rw [hstop]
        simp [Nat.add_assoc]
      · rwa [Position.afterText_append]
  | cons w us ih =>
    rw [List.cons_append] at h
    cases h with
    | @token _ g u rest k _ _ _ hr =>
      rw [← Position.afterText_append] at hr
      obtain ⟨v, rest, rfl, hstop, hrest⟩ := ih (pre ++ (g ++ u)) hr
      refine ⟨g ++ (u ++ v), rest, by simp, ?_, ?_⟩
      · simpa using hstop
      · simpa using hrest

namespace Scanner

/-- The tokens of a text of which some characters were read already. -/
theorem tokenize_after {text : String} {k : Nat} {ts : List Token}
    (h : Lexed (start.afterText (text.toList.take k)) (text.toList.drop k) ts) :
    (ofSource ((Source.ofString text).after k)).tokenize.1 =
      .ok (ts ++ [.endOfFile (start.afterText text.toList)]) := by
  have hsource : (Source.ofString text).after k = .text ⟨text.toList.drop k,
      start.afterText (text.toList.take k), 0 + k⟩ := Source.after_text text.toList start 0 k
  rw [hsource, tokenize_text h, ← Position.afterText_append, List.take_append_drop]

/-- A token in front of the end token is one of the tokens of the text. -/
theorem eq_append_of_concat_endOfFile {p : Position} {us ts vs : List Token} {t : Token}
    (h : us ++ [.endOfFile p] = ts ++ t :: vs) (ht : t.isEndOfFile = false) :
    ∃ ws, vs = ws ++ [.endOfFile p] ∧ us = ts ++ t :: ws := by
  rcases List.eq_nil_or_concat vs with rfl | ⟨ws, u, rfl⟩
  · obtain ⟨-, hlast⟩ := List.append_inj' h rfl
    rw [← List.head_eq_of_cons_eq hlast] at ht
    cases ht
  · have h' : us ++ [.endOfFile p] = (ts ++ t :: ws) ++ [u] := by simpa using h
    obtain ⟨hfront, hlast⟩ := List.append_inj' h' rfl
    refine ⟨ws, ?_, hfront⟩
    rw [← List.head_eq_of_cons_eq hlast, List.concat_eq_append]

/-- **Scanning can be taken up at any place of a text.** A scanner of a source of which some
characters were read already gives the tokens of the other characters, which continue the line and
the column of those that were read. If a token ends there, these are the tokens behind it, in the
places that they have in the whole text. -/
theorem tokenize_resumed (text : String) (k : Nat) : ∃ us : List Token,
    (ofString (String.ofList (text.toList.drop k))).tokenize.1 = .ok us ∧
    (ofSource ((Source.ofString text).after k)).tokenize.1 =
      .ok (us.map (.rebase (start.afterText (text.toList.take k)))) ∧
    ∀ ts t vs, (ofString text).tokenize.1 = .ok (ts ++ t :: vs) → t.isEndOfFile = false →
      t.stop text.toList = k → t.StandsIn text.toList ∧
        (ofSource ((Source.ofString text).after k)).tokenize.1 = .ok vs := by
  obtain ⟨us, hrest⟩ := exists_lexed start (text.toList.drop k)
  have hstart : 1 ≤ start.line := Int.le_refl _
  have hlist : (String.ofList (text.toList.drop k)).toList = text.toList.drop k :=
    String.toList_ofList
  have hend : (start.afterText (text.toList.take k)).rebase (start.afterText (text.toList.drop k)) =
      start.afterText text.toList := by
    rw [Position.rebase_afterText hstart, Position.rebase_start, ← Position.afterText_append,
      List.take_append_drop]
  refine ⟨_, tokenize_ofString (hlist.symm ▸ hrest), ?_, ?_⟩
  · have hmoved := hrest.rebase hstart (start.afterText (text.toList.take k))
    rw [Position.rebase_start] at hmoved
    rw [tokenize_after hmoved, hlist, List.map_append]
    simp [Token.rebase, Token.endOfFile, hend]
  · intro ts t vs hall ht hstop
    obtain ⟨all, h⟩ := exists_lexed start text.toList
    rw [tokenize_ofString h] at hall
    obtain ⟨ws, rfl, rfl⟩ := eq_append_of_concat_endOfFile (Except.ok.inj hall) ht
    obtain ⟨v, rest, htext, hv, hbehind⟩ := h.behind []
    refine ⟨(h.forall_mem [] t (by simp)).1, ?_⟩
    have hk : v.length = k := by
      rw [← hstop]
      simpa using hv.symm
    apply tokenize_after
    rwa [htext, List.take_left' hk, List.drop_left' hk]

/-- Between the characters of an operator a scanner takes up its second half, and behind the
operator the tokens behind it. -/
theorem tokenize_resumed_operator :
    (∃ us : List Token, (ofString "=b\nc").tokenize.1 = .ok us ∧
      (ofSource ((Source.ofString "a<=b\nc").after 2)).tokenize.1 =
        .ok (us.map (.rebase ⟨1, 3⟩))) ∧
    Token.stop ⟨.operator, "<=", ⟨1, 2⟩⟩ "a<=b\nc".toList = 3 ∧
    (ofSource ((Source.ofString "a<=b\nc").after 3)).tokenize.1 =
      .ok [⟨.identifier, "b", ⟨1, 4⟩⟩, ⟨.identifier, "c", ⟨2, 1⟩⟩, .endOfFile ⟨2, 2⟩] := by
  have hall : (ofString "a<=b\nc").tokenize.1 = .ok ([⟨.identifier, "a", ⟨1, 1⟩⟩] ++
      ⟨.operator, "<=", ⟨1, 2⟩⟩ :: [⟨.identifier, "b", ⟨1, 4⟩⟩, ⟨.identifier, "c", ⟨2, 1⟩⟩,
        .endOfFile ⟨2, 2⟩]) := by
    with_unfolding_all rfl
  have hstop : Token.stop ⟨.operator, "<=", ⟨1, 2⟩⟩ "a<=b\nc".toList = 3 := by decide
  obtain ⟨us, hus, hmoved, -⟩ := tokenize_resumed "a<=b\nc" 2
  obtain ⟨-, -, -, hbehind⟩ := tokenize_resumed "a<=b\nc" 3
  exact ⟨⟨us, hus, hmoved⟩, hstop, (hbehind _ _ _ hall rfl hstop).2⟩

end Scanner

end KayLexer
