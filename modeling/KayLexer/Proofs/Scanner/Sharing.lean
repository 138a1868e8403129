import KayLexer.Proofs.Deliveries
import KayLexer.Proofs.Fronts
import KayLexer.Proofs.Scanner.Stream

/-!
Scanners whose source is read by somebody else as well. What the other reader takes is not there for
the scanner, which goes on with its lookahead and with what the source gives next. Main statement:
the tokens are those of the text that the scanner itself has received, at the positions where its
characters stand in the text of the source.
-/

namespace KayLexer

open Position (start)

/-! ### Tokens at other places -/

/-- The token of a text whose characters stand elsewhere, the one at each offset at `place`. -/
def Token.relocate (t : Token) (place : Nat → Position) (cs : List Char) : Token :=
  { t with position := place (t.offset cs) }

namespace Token.StandsIn

variable {t : Token} {cs ds : List Char}

theorem offset_lt (h : t.StandsIn cs) : t.offset cs < cs.length := by
  apply Nat.lt_of_not_le
  intro hle
  have ht := h.text
  rw [List.drop_eq_nil_of_le hle, List.take_nil] at ht
  exact h.nonempty (String.toList_eq_nil_iff.1 ht.symm)

/-- A token stays where it is if the text goes on. -/
theorem offset_append (h : t.StandsIn cs) (ds : List Char) :
    t.offset (cs ++ ds) = t.offset cs := by
  have hoff := Position.offsetIn_afterText (cs.take (t.offset cs)) (cs.drop (t.offset cs) ++ ds)
  rw [← List.append_assoc, List.take_append_drop, ← h.position, List.length_take,
    Nat.min_eq_left (Nat.le_of_lt h.offset_lt)] at hoff
  exact hoff

/-- The character at which a token begins. -/
theorem head? (h : t.StandsIn cs) : t.text.toList.head? = cs[t.offset cs]? := by
  have hlen : t.text.length ≠ 0 := by
    rw [← String.length_toList, Ne, List.length_eq_zero_iff, String.toList_eq_nil_iff]
    exact h.nonempty
  rw [← h.text, List.head?_take, if_neg hlen, List.head?_drop]

end Token.StandsIn

theorem Lexed.standsIn {cs : List Char} {ts : List Token} (h : Lexed start cs ts) :
    ∀ t ∈ ts, t.StandsIn cs :=
  fun t ht => (h.forall_mem [] t ht).1

/-- Tokens stay where they are if the text goes on. -/
theorem relocate_append {ts : List Token} {place place' : Nat → Position} {cs : List Char}
    (hts : ∀ t ∈ ts, t.StandsIn cs) (hp : ∀ n < cs.length, place' n = place n) (ds : List Char) :
    ts.map (·.relocate place' (cs ++ ds)) = ts.map (·.relocate place cs) := by
  refine List.map_congr_left fun t ht => ?_
  rw [Token.relocate, Token.relocate, (hts t ht).offset_append, hp _ (hts t ht).offset_lt]

/-! ### A shared source -/

/-- What is left of a text source. -/
def Scanner.unread (s : Scanner) : List Char :=
  match s.source with
  | some (.text source) => source.rest
  | _ => []

/-- A scanner, and all that it and the other reader of its source have got so far. -/
structure Sharing where
  scanner : Scanner
  deliveries : Deliveries
  tokens : List (Except ReadError Token)
  chars : List (Except ReadError (Option Char))

namespace Sharing

/-- Nobody has got anything from the source since the scanner was made. -/
def ofScanner (s : Scanner) : Sharing := ⟨s, [], [], []⟩

/-- What a source has given while it came from one state to another. -/
def given (s s' : Scanner) : List Char := s.unread.take (s.unread.length - s'.unread.length)

/-- The scanner gives a token, or the other reader takes a character. -/
def turn (h : Sharing) (p : Party) : Sharing :=
  match p with
  | .scanner =>
    let (r, scanner) := h.scanner.nextToken
    { h with
      scanner
      deliveries := h.deliveries ++ .ofChars .scanner (given h.scanner scanner)
      tokens := h.tokens ++ [r] }
  | .reader =>
    let (r, scanner) := h.scanner.readSource
    { h with
      scanner
      deliveries := h.deliveries ++ .ofChars .reader (given h.scanner scanner)
      chars := h.chars ++ [r] }

def run (h : Sharing) (ps : List Party) : Sharing := ps.foldl turn h

theorem given_eq {s s' : Scanner} {cs : List Char} (h : s.unread = cs ++ s'.unread) :
    given s s' = cs := by
  rw [given, h, List.length_append, Nat.add_sub_cancel, List.take_left]

end Sharing

/-! ### A token whose first character is the lookahead -/

namespace Scanner

variable {s s₁ : Scanner} {e : Ending} {c : Char} {q : Position} {g u rest cs : List Char}
  {k : TokenKind}

/-- The source may stand anywhere behind the lookahead. -/
theorem nextToken_of_lookahead (hc : s.current = some c) (ha : s.advance = (.ok (), s₁))
    (h₁ : s₁.Sees e q cs) (he : e.failure = none) (hcs : c :: cs = g ++ (u ++ rest))
    (hg : Gap g) (hu : Longest k u rest) : ∃ s', s.nextToken =
        (.ok ⟨k, String.ofList u, if g = [] then s.position else q.afterText g.tail⟩, s') ∧
      s'.Sees e (q.afterText (g ++ u).tail) rest := by
  cases g with
  | nil =>
    obtain ⟨b, u, rfl⟩ := List.exists_cons_of_ne_nil hu.lexeme.ne_nil
    obtain ⟨rfl, rfl⟩ := List.cons.inj hcs
    obtain ⟨s', hp, hs'⟩ := h₁.passes (Or.inr he)
    exact ⟨s', nextToken_lexeme hu (.step hc ha hp) hs'.current, hs'⟩
  | cons b g =>
    obtain ⟨rfl, rfl⟩ := List.cons.inj hcs
    obtain ⟨m, hpg, hm⟩ := h₁.passes (Or.inr he)
    obtain ⟨s', hpu, hs'⟩ := hm.passes (Or.inr he)
    refine ⟨s', ?_, by simpa using hs'⟩
    rw [nextToken_gap hg (.step hc ha hpg), nextToken_lexeme hu hpu hs'.current, hm.position]
    rfl

end Scanner

namespace Sharing

/-! ### What the scanner has received -/

/-- How far a scanner is that has received a text and has given out the tokens. Its characters stand
at the positions `place`, and the last one is its lookahead unless it is at its end. -/
inductive Phase (place : Nat → Position) : Scanner → List Char → List Token → Prop where
  | fresh {s : Scanner} : s.current = some ' ' → Phase place s [] []
  | behind {s : Scanner} {v : List Char} {c : Char} {ts : List Token} :
      s.current = some c → s.position = place v.length → Front v (some c) ts →
      Phase place s (v ++ [c]) (ts.map (·.relocate place (v ++ [c])))
  | ended {s : Scanner} {r : List Char} {ts : List Token} :
      s.atEnd = true → Lexed start r ts → Phase place s r (ts.map (·.relocate place r))

/-- The source of the scanner, over the text `before ++ body` of which `before` had been read when
the scanner was made, has made the deliveries and no others. -/
structure Supplied (before body : List Char) (s : Scanner) (ds : Deliveries) : Prop where
  source : ∃ n, s.source = some (.text ⟨s.unread, start.afterText (before ++ ds.chars), n⟩)
  split : body = ds.chars ++ s.unread

/-- The scanner has given out the tokens, and is as far as it comes with the deliveries to it. -/
structure Consistent (before body : List Char) (s : Scanner) (ds : Deliveries) (us : List Token) :
    Prop extends Supplied before body s ds where
  phase : Phase (ds.positionOf before body) s (ds.takenBy .scanner) us

variable {before body : List Char} {s s' : Scanner} {ds : Deliveries} {us : List Token}

/-- The phase of a scanner is not changed by what happens to its source. -/
theorem Phase.congr {place place' : Nat → Position} {r : List Char} (h : Phase place s r us)
    (hcur : s'.current = s.current) (ha : s'.atEnd = s.atEnd) (hp : s'.position = s.position)
    (hplace : ∀ n < r.length, place' n = place n) : Phase place' s' r us := by
  cases h with
  | fresh hs => exact .fresh (hcur.trans hs)
  | @behind v c ts hs hpos hf =>
    have hlt : v.length < (v ++ [c]).length := by simp
    have hc : [c].head? = some c := rfl
    have hmap := relocate_append (hf.standsIn hc) hplace []
    rw [List.append_nil] at hmap
    rw [← hmap]
    exact .behind (hcur.trans hs) (hp.trans (hpos.trans (hplace _ hlt).symm)) hf
  | ended hs hl =>
    have hmap := relocate_append hl.standsIn hplace []
    rw [List.append_nil] at hmap
    rw [← hmap]
    exact .ended (ha.trans hs) hl

theorem Phase.of_not_atEnd {place : Nat → Position} {r : List Char} (h : Phase place s r us)
    (ha : s.atEnd = false) :
    (s.current = some ' ' ∧ r = [] ∧ us = []) ∨ r ≠ [] ∧ ∃ c, s.current = some c := by
  cases h with
  | fresh hc => exact Or.inl ⟨hc, rfl, rfl⟩
  | @behind v c ts hc => exact Or.inr ⟨by simp, c, hc⟩
  | ended he =>
    rw [ha] at he
    cases he

section Token

variable {place place' : Nat → Position} {q : Position} {v w g u rest : List Char} {c : Char}
  {k : TokenKind} {ts : List Token}

/-- The token behind a gap begins at the lookahead if there is no gap, and else where the source
goes on. -/
theorem relocate_tokenBehind (hw : c :: w = g ++ u) (hpos : s.position = place v.length)
    (hstable : ∀ n < (v ++ [c]).length, place' n = place n)
    (hnew : ∀ n ≤ w.length, place' ((v ++ [c]).length + n) = q.afterText (w.take n)) :
    (tokenBehind v g u k).relocate place' (v ++ (g ++ (u ++ rest))) =
      ⟨k, String.ofList u, if g = [] then s.position else q.afterText g.tail⟩ := by
  rw [Token.relocate, offset_tokenBehind]
  cases g with
  | nil =>
    have hlt : v.length < (v ++ [c]).length := by simp
    rw [if_pos rfl, hpos, ← hstable _ hlt]
    rfl
  | cons b g =>
    obtain ⟨rfl, hwu⟩ : c = b ∧ w = g ++ u := List.cons.inj hw
    have hlen : v.length + (c :: g).length = (v ++ [c]).length + g.length := by
      simp only [List.length_append, List.length_cons, List.length_nil]
      omega
    have hle : g.length ≤ w.length := by simp [hwu]
    rw [if_neg (List.cons_ne_nil c g), hlen, hnew _ hle, hwu, List.take_left]
    rfl

/-- A token more. -/
theorem Phase.token {e : Ending} (hpos : s.position = place v.length) (hf : Front v (some c) ts)
    (hw : c :: w = g ++ u) (hg : Gap g) (hu : Longest k u rest)
    (hstable : ∀ n < (v ++ [c]).length, place' n = place n)
    (hnew : ∀ n ≤ w.length, place' ((v ++ [c]).length + n) = q.afterText (w.take n))
    (hs' : s'.Sees e (q.afterText w) rest) :
    Phase place' s' (v ++ [c] ++ (w ++ rest.take 1)) (ts.map (·.relocate place (v ++ [c])) ++
      [⟨k, String.ofList u, if g = [] then s.position else q.afterText g.tail⟩]) := by
  have hr : v ++ [c] ++ (w ++ rest.take 1) = v ++ (g ++ (u ++ rest.take 1)) := by
    rw [List.append_assoc, List.singleton_append, ← List.cons_append, hw, List.append_assoc]
  have hc : [c].head? = some c := rfl
  have hts : (ts ++ [tokenBehind v g u k]).map
        (·.relocate place' (v ++ [c] ++ (w ++ rest.take 1))) =
      ts.map (·.relocate place (v ++ [c])) ++
        [⟨k, String.ofList u, if g = [] then s.position else q.afterText g.tail⟩] := by
    rw [List.map_append, relocate_append (hf.standsIn hc) hstable, List.map_singleton, hr,
      relocate_tokenBehind hw hpos hstable hnew]
  have hhead : (g ++ u).head? = some c := by rw [← hw]; rfl
  have hfront : Front (v ++ (g ++ u)) rest.head? (ts ++ [tokenBehind v g u k]) :=
    .token (by rwa [hhead]) hg hu
  rw [← hts, hr]
  cases rest with
  | nil =>
    have hl := hfront.lexed rfl (.trail (.gap .nil))
    simp only [List.append_nil, List.take_nil] at hl ⊢
    exact .ended hs'.1 hl
  | cons d rest =>
    have hassoc : v ++ (g ++ (u ++ [d])) = v ++ (g ++ u) ++ [d] := by simp
    have hlen : (v ++ (g ++ u)).length = (v ++ [c]).length + w.length := by
      rw [← hw]
      simp
      omega
    have hp : s'.position = place' (v ++ (g ++ u)).length := by
      rw [hs'.position, hlen, hnew _ (Nat.le_refl _), List.take_length]
    rw [List.take_succ_cons, List.take_zero, hassoc]
    exact .behind hs'.current hp hfront

/-- No token more. -/
theorem Phase.trail {e : Ending} (hf : Front v (some c) ts) (ht : Trail (c :: w))
    (hstable : ∀ n < (v ++ [c]).length, place' n = place n) (hs' : s'.Sees e q []) :
    Phase place' s' (v ++ [c] ++ w) (ts.map (·.relocate place (v ++ [c]))) := by
  have hc : [c].head? = some c := rfl
  have hl : Lexed start (v ++ c :: w) (ts ++ []) := hf.lexed rfl (.trail ht)
  rw [List.append_nil, List.append_cons] at hl
  rw [← relocate_append (hf.standsIn hc) hstable]
  exact .ended hs'.1 hl

end Token

/-! ### A turn of the scanner -/

/-- The scanner gives a token, for which it receives the next characters of its source. -/
def Gives (before body : List Char) (s : Scanner) (ds : Deliveries) (us : List Token) : Prop :=
  ∃ t s' cs, s.nextToken = (.ok t, s') ∧ s.unread = cs ++ s'.unread ∧
    Consistent before body s' (ds ++ .ofChars .scanner cs)
      (us ++ [t].filter fun t => !t.isEndOfFile) ∧ (t.isEndOfFile = true → s'.atEnd = true)

/-- What the source has given where the scanner sees the rest of it: all up to the lookahead. -/
theorem supplied_of_sees {e : Ending} {w rest : List Char} {n : Nat}
    (hsplit : body = ds.chars ++ (w ++ rest))
    (hs' : s'.Sees e ((start.afterText (before ++ ds.chars)).afterText w) rest)
    (hl : e.last = .text ⟨[], (start.afterText (before ++ ds.chars)).afterText (w ++ rest), n⟩) :
    s'.unread = rest.tail ∧
      Supplied before body s' (ds ++ .ofChars .scanner (w ++ rest.take 1)) := by
  rw [Position.afterText_append] at hl
  obtain ⟨m, -, hs⟩ := hs'.source_text hl
  have hu : s'.unread = rest.tail := by rw [Scanner.unread, hs]
  have htail : rest.take 1 ++ rest.tail = rest := by rw [← List.drop_one, List.take_append_drop]
  refine ⟨hu, ⟨m, ?_⟩, ?_⟩
  · rw [hu, hs]
    simp
  · rw [hu, hsplit, Deliveries.chars_append, Deliveries.chars_ofChars, List.append_assoc,
      List.append_assoc, htail]

section Behind

variable {v g u rest : List Char} {c : Char} {k : TokenKind} {ts : List Token}

/-- Where no token is left, the rest of the source is received before the end token is given. -/
theorem Supplied.gives_trail (h : Supplied before body s ds) (hr : ds.takenBy .scanner = v ++ [c])
    (hc : s.current = some c) (hf : Front v (some c) ts) (ht : Trail (c :: s.unread)) :
    Gives before body s ds (ts.map (·.relocate (ds.positionOf before body) (v ++ [c]))) := by
  obtain ⟨⟨n, hs⟩, hsplit⟩ := h
  obtain ⟨e, s₁, ha, h₁, he, hl⟩ := Scanner.advance_of_text (Scanner.atEnd_of_current hc) hs
  rw [← s.unread.append_nil] at h₁ hsplit hl
  obtain ⟨s', hp, hs'⟩ := h₁.passes (Or.inr he)
  have hn := Scanner.nextToken_trail ht (.step hc ha hp) hs'.current
  obtain ⟨hu, hsup⟩ := supplied_of_sees hsplit hs' hl
  rw [List.take_nil, List.append_nil] at hsup
  refine ⟨_, s', s.unread, hn, ?_, ⟨hsup, ?_⟩, fun _ => hs'.1⟩
  · rw [hu]
    exact s.unread.append_nil.symm
  · rw [filter_endOfFile, List.append_nil, Deliveries.takenBy_append, hr,
      Deliveries.takenBy_ofChars]
    exact .trail hf ht (fun n hn => Deliveries.positionOf_append_of_lt (hr ▸ hn)) hs'

/-- Where a token is left, the source is received up to the character behind it. -/
theorem Supplied.gives_token (h : Supplied before body s ds) (hr : ds.takenBy .scanner = v ++ [c])
    (hc : s.current = some c) (hpos : s.position = ds.positionOf before body v.length)
    (hf : Front v (some c) ts) (hcs : c :: s.unread = g ++ (u ++ rest)) (hg : Gap g)
    (hu : Longest k u rest) :
    Gives before body s ds (ts.map (·.relocate (ds.positionOf before body) (v ++ [c]))) := by
  obtain ⟨⟨n, hs⟩, hsplit⟩ := h
  obtain ⟨e, s₁, ha, h₁, he, hl⟩ := Scanner.advance_of_text (Scanner.atEnd_of_current hc) hs
  obtain ⟨b, w, hw⟩ : ∃ b w, g ++ u = b :: w :=
    List.exists_cons_of_ne_nil (by simp [hu.lexeme.ne_nil])
  obtain ⟨rfl, hunread⟩ : c = b ∧ s.unread = w ++ rest := by
    rw [← List.append_assoc, hw] at hcs
    exact List.cons.inj hcs
  obtain ⟨s', hn, hs'⟩ := Scanner.nextToken_of_lookahead hc ha h₁ he hcs hg hu
  rw [hunread] at hsplit hl
  rw [hw] at hs'
  obtain ⟨hu', hsup⟩ := supplied_of_sees hsplit hs' hl
  have hphase := Phase.token hpos hf hw.symm hg hu
    (fun n hn => Deliveries.positionOf_append_of_lt (hr ▸ hn))
    (fun n hle => Deliveries.positionOf_append before (rest.take 1) hr hsplit hle) hs'
  have hk := hu.lexeme.not_isEndOfFile (String.ofList u)
  refine ⟨_, s', w ++ rest.take 1, hn, ?_, ⟨hsup, ?_⟩, ?_⟩
  · rw [hu', hunread, List.append_assoc, ← List.drop_one, List.take_append_drop]
  · rw [filter_isEndOfFile (List.forall_mem_singleton.2 (hk _)), Deliveries.takenBy_append, hr,
      Deliveries.takenBy_ofChars]
    exact hphase
  · intro ht
    rw [hk] at ht
    cases ht

end Behind

/-- Where it has a lookahead, the scanner goes on with the next token of what it has received. -/
theorem Consistent.gives_behind (h : Consistent before body s ds us) {c : Char}
    (hc : s.current = some c) (hr : ds.takenBy .scanner ≠ []) : Gives before body s ds us := by
  obtain ⟨hsup, hphase⟩ := h
  generalize hr' : ds.takenBy .scanner = r at hphase hr
  cases hphase with
  | fresh => exact absurd rfl hr
  | ended ha => simp [Scanner.current_of_atEnd ha] at hc
  | @behind v c' ts hc' hpos hf =>
    obtain rfl : c = c' := Option.some.inj (hc.symm.trans hc')
    obtain ⟨ts', hlex⟩ := exists_lexed start (c :: s.unread)
    generalize hcs : c :: s.unread = cs at hlex
    cases hlex with
    | trail ht => exact hsup.gives_trail hr' hc hf (hcs ▸ ht)
    | token hg hu => exact hsup.gives_token hr' hc hpos hf hcs hg hu

/-- At the end only the end token is given, and nothing is received. -/
theorem Consistent.gives_over (h : Consistent before body s ds us) (ha : s.atEnd = true) :
    Gives before body s ds us := by
  refine ⟨_, s, [], Scanner.nextToken_of_atEnd ha, rfl, ?_, fun _ => ha⟩
  have hds : ds ++ Deliveries.ofChars .scanner [] = ds := List.append_nil ds
  rw [filter_endOfFile, hds, List.append_nil]
  exact h

/-- The first step of a scanner reads the first character that there is for it. -/
theorem Consistent.first (h : Consistent before body s ds []) (hc : s.current = some ' ')
    (hr : ds.takenBy .scanner = []) : ∃ s₁ cs, s.nextToken = s₁.nextToken ∧
      s.unread = cs ++ s₁.unread ∧ Consistent before body s₁ (ds ++ .ofChars .scanner cs) [] ∧
      (s₁.atEnd = true ∨ cs ≠ [] ∧ ∃ c, s₁.current = some c) := by
  obtain ⟨⟨⟨n, hs⟩, hsplit⟩, -⟩ := h
  obtain ⟨e, s₁, ha, h₁, he, hl⟩ := Scanner.advance_of_text (Scanner.atEnd_of_current hc) hs
  have hn : s.nextToken = s₁.nextToken :=
    Scanner.nextToken_gap (.blank (by decide) .nil) (.step hc ha (.refl s₁))
  have hnil : s₁.Sees e ((start.afterText (before ++ ds.chars)).afterText []) s.unread := h₁
  have hsplit : body = ds.chars ++ ([] ++ s.unread) := hsplit
  obtain ⟨hu, hsup⟩ := supplied_of_sees hsplit hnil hl
  have hpos := Deliveries.positionOf_append before (s.unread.take 1) hr hsplit (Nat.zero_le _)
  refine ⟨s₁, s.unread.take 1, hn, ?_, ⟨hsup, ?_⟩, ?_⟩
  · rw [hu, ← List.drop_one, List.take_append_drop]
  · rw [Deliveries.takenBy_append, hr, Deliveries.takenBy_ofChars]
    cases hcs : s.unread with
    | nil =>
      rw [hcs] at h₁
      exact .ended h₁.1 (.trail (.gap .nil))
    | cons c cs =>
      rw [hcs] at h₁ hpos
      exact .behind h₁.current (h₁.position.trans hpos.symm) .nil
  · rw [h₁.atEnd_iff, h₁.current]
    cases s.unread with
    | nil => exact Or.inl rfl
    | cons c cs => exact Or.inr ⟨List.cons_ne_nil c _, c, rfl⟩

/-- **The scanner gives the next token of what it has received.** -/
theorem Consistent.gives (h : Consistent before body s ds us) : Gives before body s ds us := by
  cases hc : s.atEnd with
  | true => exact h.gives_over hc
  | false =>
    rcases h.phase.of_not_atEnd hc with ⟨hb, hr, rfl⟩ | ⟨hr, c, hc⟩
    · obtain ⟨s₁, cs, hn, hu, h₁, hend⟩ := h.first hb hr
      have hgives : Gives before body s₁ (ds ++ .ofChars .scanner cs) [] := by
        rcases hend with ha | ⟨hcs, c, hc⟩
        · exact h₁.gives_over ha
        · refine h₁.gives_behind hc ?_
          rw [Deliveries.takenBy_append, Deliveries.takenBy_ofChars]
          exact List.append_ne_nil_of_right_ne_nil _ hcs
      obtain ⟨t, s', cs', hn', hu', h', hend'⟩ := hgives
      refine ⟨t, s', cs ++ cs', hn.trans hn', ?_, ?_, hend'⟩
      · rw [hu, hu', List.append_assoc]
      · rw [Deliveries.ofChars_append, ← List.append_assoc]
        exact h'
    · exact h.gives_behind hc hr

/-! ### A turn of the other reader -/

/-- What the other reader takes is not there for the scanner, for which nothing else changes. -/
theorem Consistent.reads (h : Consistent before body s ds us) : ∃ o s',
    s.readSource = (.ok o, s') ∧ s.unread = o.toList ++ s'.unread ∧
      Consistent before body s' (ds ++ .ofChars .reader o.toList) us ∧ s'.atEnd = s.atEnd := by
  obtain ⟨⟨⟨n, hs⟩, hsplit⟩, hphase⟩ := h
  have hr (cs : List Char) : (ds ++ .ofChars .reader cs : Deliveries).takenBy .scanner =
      ds.takenBy .scanner := by
    rw [Deliveries.takenBy_append, Deliveries.takenBy_ofChars_of_ne (by decide), List.append_nil]
  have hplace (cs : List Char) : ∀ n < (ds.takenBy .scanner).length,
      (ds ++ .ofChars .reader cs : Deliveries).positionOf before body n =
        ds.positionOf before body n :=
    fun n hn => Deliveries.positionOf_append_of_lt hn
  cases hu : s.unread with
  | nil =>
    rw [hu] at hs hsplit
    refine ⟨none, { s with
        source := some (.text ⟨[], start.afterText (before ++ ds.chars), n + 1⟩) },
      ?_, rfl, ⟨⟨⟨n + 1, ?_⟩, ?_⟩, ?_⟩, rfl⟩
    · rw [Scanner.readSource, hs]
      rfl
    · simp [Scanner.unread]
    · simpa [Scanner.unread] using hsplit
    · rw [hr]
      exact hphase.congr rfl rfl rfl (hplace _)
  | cons c cs =>
    rw [hu] at hs hsplit
    refine ⟨some c, { s with
        source := some (.text ⟨cs, (start.afterText (before ++ ds.chars)).after c, n + 1⟩) },
      ?_, rfl, ⟨⟨⟨n + 1, ?_⟩, ?_⟩, ?_⟩, rfl⟩
    · rw [Scanner.readSource, hs]
      rfl
    · simp [Scanner.unread]
    · simpa [Scanner.unread] using hsplit
    · rw [hr]
      exact hphase.congr rfl rfl rfl (hplace _)

/-! ### All turns -/

/-- What is known of a scanner and the other reader of its source after any turns. -/
structure Orderly (before body : List Char) (h : Sharing) : Prop where
  tokens : ∃ us : List Token, h.tokens = us.map .ok ∧
    Consistent before body h.scanner h.deliveries (us.filter fun u => !u.isEndOfFile) ∧
    ∀ u ∈ us, u.isEndOfFile = true → h.scanner.atEnd = true
  chars : ∃ cs : List (Option Char), h.chars = cs.map .ok ∧
    cs.filterMap id = h.deliveries.takenBy .reader

variable {h : Sharing}

theorem Orderly.turn_scanner (ho : Orderly before body h) :
    Orderly before body (h.turn .scanner) := by
  obtain ⟨⟨us, hus, hcons, hend⟩, cs, hcs, hread⟩ := ho
  obtain ⟨t, s', ds, hn, hu, h', ht⟩ := hcons.gives
  have hturn : h.turn .scanner = { h with
      scanner := s'
      deliveries := h.deliveries ++ .ofChars .scanner ds
      tokens := h.tokens ++ [.ok t] } := by
    simp only [turn, hn, given_eq hu]
  rw [hturn]
  refine ⟨⟨us ++ [t], ?_, ?_, ?_⟩, cs, hcs, ?_⟩
  · simp [hus]
  · rw [List.filter_append]
    exact h'
  · intro u hmem he
    rcases List.mem_append.1 hmem with hold | hnew
    · -- at its end the scanner stays as it is
      have ha := hend u hold he
      rw [Scanner.nextToken_of_atEnd ha] at hn
      cases hn
      exact ha
    · rw [List.mem_singleton.1 hnew] at he
      exact ht he
  · rw [Deliveries.takenBy_append, Deliveries.takenBy_ofChars_of_ne (by decide), List.append_nil]
    exact hread

theorem Orderly.turn_reader (ho : Orderly before body h) :
    Orderly before body (h.turn .reader) := by
  obtain ⟨⟨us, hus, hcons, hend⟩, cs, hcs, hread⟩ := ho
  obtain ⟨o, s', hn, hu, h', ha⟩ := hcons.reads
  have hturn : h.turn .reader = { h with
      scanner := s'
      deliveries := h.deliveries ++ .ofChars .reader o.toList
      chars := h.chars ++ [.ok o] } := by
    simp only [turn, hn, given_eq hu]
  rw [hturn]
  refine ⟨⟨us, hus, h', ?_⟩, cs ++ [o], ?_, ?_⟩
  · intro u hmem he
    exact ha.trans (hend u hmem he)
  · simp [hcs]
  · rw [Deliveries.takenBy_append, Deliveries.takenBy_ofChars, List.filterMap_append, hread]
    cases o <;> rfl

/-- **Each turn keeps the order.** -/
theorem Orderly.run (ho : Orderly before body h) (ps : List Party) :
    Orderly before body (h.run ps) := by
  induction ps generalizing h with
  | nil => exact ho
  | cons p ps ih =>
    cases p with
    | scanner => exact ih ho.turn_scanner
    | reader => exact ih ho.turn_reader

/-- The tokens that are given out so far come first among those of what was received, and at the end
they are all. -/
theorem Phase.tokens {place : Nat → Position} {r : List Char} (h : Phase place s r us) :
    ∃ ts, Lexed start r ts ∧ us <+: ts.map (·.relocate place r) ∧
      (s.atEnd = true → us = ts.map (·.relocate place r)) := by
  have unfinished {c : Char} (hc : s.current = some c) (ha : s.atEnd = true) : False := by
    simp [Scanner.current_of_atEnd ha] at hc
  cases h with
  | fresh hc => exact ⟨[], .trail (.gap .nil), List.nil_prefix, fun ha => (unfinished hc ha).elim⟩
  | @behind v c ts hc hpos hf =>
    obtain ⟨ts', hl⟩ := exists_lexed (start.afterText v) [c]
    refine ⟨ts ++ ts', hf.lexed rfl hl, ?_, fun ha => (unfinished hc ha).elim⟩
    rw [List.map_append]
    exact List.prefix_append _ _
  | @ended _ ts ha hl => exact ⟨ts, hl, List.prefix_refl _, fun _ => rfl⟩

/-- **Tokens depend on what the scanner itself receives.** A scanner is made over a text of which
`before` has been read, and shares the rest of it with another reader, whoever of the two has the
next turn. What was given of the text so far was given in order, each character to one of the two.
The tokens that the scanner has given out so far are the first tokens of the text that it has
received, and all of them once it has given out the end token; only their positions are those at
which their first characters stand in the whole text. -/
theorem run_received (before body : List Char) (n : Nat) (ps : List Party) :
    let h := (ofScanner (.ofSource (.text ⟨body, start.afterText before, n⟩))).run ps
    let r := h.deliveries.takenBy .scanner
    h.deliveries.chars ++ h.scanner.unread = body ∧
    (∃ cs : List (Option Char), h.chars = cs.map .ok ∧
      cs.filterMap id = h.deliveries.takenBy .reader) ∧
    ∃ ts us : List Token,
      (Scanner.ofString (String.ofList r)).tokenize.1 =
        .ok (ts ++ [.endOfFile (start.afterText r)]) ∧
      (∀ t ∈ ts, t.isEndOfFile = false ∧ ∃ c, t.text.toList.head? = some c ∧
        h.deliveries[h.deliveries.indexOf (t.offset r)]? = some (.scanner, c)) ∧
      h.tokens = us.map .ok ∧
      (us.filter fun u => !u.isEndOfFile) <+:
        ts.map (·.relocate (h.deliveries.positionOf before body) r) ∧
      ((∃ u ∈ us, u.isEndOfFile = true) → (us.filter fun u => !u.isEndOfFile) =
        ts.map (·.relocate (h.deliveries.positionOf before body) r)) := by
  intro h r
  have hstart : Orderly before body
      (ofScanner (.ofSource (.text ⟨body, start.afterText before, n⟩))) := by
    refine ⟨⟨[], rfl, ⟨⟨⟨n, ?_⟩, rfl⟩, .fresh rfl⟩, by simp⟩, [], rfl, rfl⟩
    simp [ofScanner, Scanner.ofSource, Scanner.unread, Deliveries.chars]
  obtain ⟨⟨us, hus, hcons, hend⟩, hchars⟩ := hstart.run ps
  obtain ⟨ts, hl, hle, hall⟩ := hcons.phase.tokens
  refine ⟨hcons.split.symm, hchars, ts, us, ?_, ?_, hus, hle, ?_⟩
  · have hr : (String.ofList r).toList = r := String.toList_ofList
    have htokens : Lexed start (String.ofList r).toList ts := by
      rw [hr]
      exact hl
    rw [Scanner.tokenize_ofString htokens, hr]
  · intro t ht
    have hstands := hl.standsIn t ht
    have hlt := hstands.offset_lt
    refine ⟨hl.not_isEndOfFile t ht, r[t.offset r], ?_, ?_⟩
    · rw [hstands.head?]
      exact List.getElem?_eq_getElem hlt
    · rw [Deliveries.getElem?_indexOf hlt, List.getElem?_eq_getElem hlt]
      rfl
  · rintro ⟨u, hu, he⟩
    exact hall (hend u hu he)

/-- The reader takes a character out of the middle of a word, whose rest stands one column further
on than it would in the text that the scanner has received. -/
theorem run_received_apart :
    let h := (ofScanner (.ofSource (.text ⟨"ab+cd".toList, start, 0⟩))).run
      [.scanner, .reader, .scanner, .scanner, .scanner]
    h.deliveries.takenBy .scanner = "ab+d".toList ∧ h.tokens = [.ok ⟨.identifier, "ab", ⟨1, 1⟩⟩,
      .ok ⟨.operator, "+", ⟨1, 3⟩⟩, .ok ⟨.identifier, "d", ⟨1, 5⟩⟩, .ok (.endOfFile ⟨1, 6⟩)] ∧
    ∃ ts, (Scanner.ofString "ab+d").tokenize.1 = .ok (ts ++ [.endOfFile ⟨1, 5⟩]) ∧
      [⟨.identifier, "ab", ⟨1, 1⟩⟩, ⟨.operator, "+", ⟨1, 3⟩⟩, ⟨.identifier, "d", ⟨1, 5⟩⟩] =
        ts.map (·.relocate (h.deliveries.positionOf [] "ab+cd".toList) "ab+d".toList) := by
  intro h
  have hr : h.deliveries.takenBy .scanner = "ab+d".toList := by with_unfolding_all rfl
  have htokens : h.tokens = [.ok ⟨.identifier, "ab", ⟨1, 1⟩⟩, .ok ⟨.operator, "+", ⟨1, 3⟩⟩,
      .ok ⟨.identifier, "d", ⟨1, 5⟩⟩, .ok (.endOfFile ⟨1, 6⟩)] := by
    with_unfolding_all rfl
  obtain ⟨-, -, ts, us, hts, -, hus, -, hall⟩ := run_received [] "ab+cd".toList 0
    [.scanner, .reader, .scanner, .scanner, .scanner]
  have hus : (([⟨.identifier, "ab", ⟨1, 1⟩⟩, ⟨.operator, "+", ⟨1, 3⟩⟩, ⟨.identifier, "d", ⟨1, 5⟩⟩,
      .endOfFile ⟨1, 6⟩] : List Token).map .ok : List (Except ReadError Token)) = us.map .ok :=
    htokens.symm.trans hus
  obtain rfl := (List.map_inj_right fun _ _ => Except.ok.inj).1 hus
  have hts : (Scanner.ofString (String.ofList (h.deliveries.takenBy .scanner))).tokenize.1 =
      .ok (ts ++ [.endOfFile (start.afterText (h.deliveries.takenBy .scanner))]) := hts
  rw [hr, String.ofList_toList] at hts
  refine ⟨hr, htokens, ts, hts, ?_⟩
  rw [← hr]
  exact hall ⟨.endOfFile ⟨1, 6⟩, by simp, rfl⟩

end Sharing

end KayLexer
