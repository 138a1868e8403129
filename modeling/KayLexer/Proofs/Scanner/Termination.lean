import KayLexer.Proofs.Scanner.Spending

/-!
Scanning ends. To take all tokens is to ask for the next one a number of times, until it is the end
token or cannot be given. What that costs is bounded by what there is to read, also where bytes mean
nothing and reads fail. Main statement: the reads that it takes to come through any stream, and
through a text.
-/

namespace KayLexer

open Position (start)

/-- A text has as many tokens as characters at most. -/
theorem Lexed.length_le {p : Position} {cs : List Char} {ts : List Token} (h : Lexed p cs ts) :
    ts.length ≤ cs.length := by
  induction h with
  | trail => exact Nat.zero_le _
  | @token p g u rest k ts _ hu _ ih =>
    have hpos : 0 < u.length := List.length_pos_iff.2 hu.lexeme.ne_nil
    simp only [List.length_cons, List.length_append]
    omega

namespace Scanner

variable {α : Type} {s : Scanner}

/-! ### The calls that it takes -/

/-- The result `all` comes of calls for the next token: they give the tokens `ts`, none of which is
the end token, and then `r`, which is the end token or an error. -/
structure TakenByCalls (s : Scanner) (ts : List Token) (r : Except ReadError Token)
    (all : Except ReadError (List Token) × Scanner) : Prop where
  calls : s.nexts (ts.length + 1) = (ts.map .ok ++ [r], all.2)
  not_isEndOfFile : ∀ t ∈ ts, t.isEndOfFile = false
  isEndOfFile : ∀ t, r = .ok t → t.isEndOfFile = true
  result : all.1 = r.map (ts ++ [·])

theorem TakenByCalls.cons {s' : Scanner} {t : Token} {ts : List Token}
    {r : Except ReadError Token} {all : Except ReadError (List Token) × Scanner}
    (hn : s.nextToken = (.ok t, s')) (ht : t.isEndOfFile = false)
    (h : s'.TakenByCalls ts r all) : s.TakenByCalls (t :: ts) r (all.1.map (t :: ·), all.2) := by
  refine ⟨?_, List.forall_mem_cons.2 ⟨ht, h.not_isEndOfFile⟩, h.isEndOfFile, ?_⟩
  · rw [List.length_cons, nexts_succ hn, h.calls]
    rfl
  · rw [h.result]
    cases r <;> rfl

/-- **All tokens are taken by calls.** -/
theorem exists_takenByCalls (s : Scanner) : ∃ ts r, s.TakenByCalls ts r s.tokenize := by
  fun_induction tokenize s with
  | case1 s e s' hn => exact ⟨[], .error e, nexts_succ hn 0, by simp, by simp, rfl⟩
  | case2 s t s' hn ht => exact ⟨[], .ok t, nexts_succ hn 0, by simp, by simpa using ht, rfl⟩
  | case3 s t s' hn ht us s'' hts ih | case4 s t s' hn ht e s'' hts ih =>
    obtain ⟨ts, r, h⟩ := ih
    rw [hts] at h
    exact ⟨t :: ts, r, h.cons hn (by simpa using ht)⟩

/-! ### The reads that it takes -/

/-- A call makes one read more, at most, than the characters cost that it takes. -/
theorem Fate.budget {b : ByteSource} {r : Except ReadError α × Scanner}
    (h : Fate s (.bytes b) r) : ∃ b' : ByteSource, r.2.source = some (.bytes b') ∧
      b'.stream.budget ≤ b.stream.budget + 1 := by
  have last {source : Source} {cs : List Char} (hd : (Source.bytes b).Delivers source cs) :
      ∃ l : ByteSource, source = .bytes l ∧ source.read.2 = .bytes l.read.2 ∧
        l.stream.budget = b.stream.budget ∧ l.read.2.stream.budget ≤ b.stream.budget + 1 := by
    obtain ⟨l, rfl, hl⟩ := hd.budget
    exact ⟨l, rfl, rfl, hl, hl ▸ l.budget_read.1⟩
  cases h with
  | onward hd hs =>
    obtain ⟨l, rfl, -, hl, -⟩ := last hd
    exact ⟨l, hs, hl ▸ Nat.le_succ _⟩
  | ended hd hf hl hsees | failed hd hf hl hsees =>
    obtain ⟨l, -, hread, -, hle⟩ := last hd
    exact ⟨l.read.2, hread ▸ hsees.2.2.1, hle⟩
  | interrupted hd hr hx hs =>
    obtain ⟨l, -, hread, -, hle⟩ := last hd
    exact ⟨l.read.2, hread ▸ hs, hle⟩

/-- A call on a new scanner of a stream reads it once more, at most, than it has events. -/
theorem Call.streamReads?_le {medium : Medium} {events : List StreamEvent}
    {path : Option SourcePath} {e : Encoding} {r : Except ReadError α × Scanner}
    (h : Call (ofSource (.bytes (.ofStream (.ofEvents medium events) path e))) r) :
    ∃ n ≤ events.length + 1, r.2.streamReads? = some n := by
  obtain ⟨b, hs, hb⟩ := (h.fate rfl rfl).budget
  have hbudget : b.stream.reads + b.stream.events.length ≤ 0 + events.length + 1 := hb
  exact ⟨b.stream.reads, by omega, streamReads?_of_bytes hs⟩

/-- All tokens of a text, and how often the text was read for them. -/
theorem tokenize_ofString_reads (text : String) : ∃ (ts : List Token) (source : TextSource),
    (ofString text).tokenize.1 = .ok ts ∧ ts.length ≤ text.length + 1 ∧
    (ofString text).tokenize.2.source = some (.text source) ∧ source.reads = text.length + 1 := by
  obtain ⟨ts, hl⟩ := exists_lexed start text.toList
  obtain ⟨e, s, hn, hs, he, hlast⟩ := exists_sees_ofString text
  obtain ⟨s', ht, hs'⟩ := hs.tokenize hl he
  have hs' : s'.Sees e (start.afterText text.toList) [] := hs'
  obtain ⟨m, hm, hsource⟩ := hs'.source_text hlast
  have hlen := hl.length_le
  rw [String.length_toList] at hlen
  rw [tokenize_congr hn, ht]
  refine ⟨_, _, rfl, ?_, hsource, hm⟩
  rw [List.length_append, List.length_singleton]
  omega

/-- **Scanning always ends.** On a stream of any events and in any encoding, all tokens are asked
for by a number of calls, of which the last one gives the end token or an error, and the stream is
read once more, at most, than it has events. A text is read once for each of its characters and once
more, and has no more tokens than that. -/
theorem tokenize_ends :
    (∀ (medium : Medium) (events : List StreamEvent) (path : Option SourcePath) (e : Encoding),
      let s := ofSource (.bytes (.ofStream (.ofEvents medium events) path e))
      (∃ ts r, s.TakenByCalls ts r s.tokenize) ∧
      ∃ n ≤ events.length + 1, s.tokenize.2.streamReads? = some n) ∧
    ∀ text : String, ∃ (ts : List Token) (source : TextSource),
      (ofString text).tokenize.1 = .ok ts ∧ ts.length ≤ text.length + 1 ∧
      (ofString text).tokenize.2.source = some (.text source) ∧
      source.reads = text.length + 1 := by
  refine ⟨?_, tokenize_ofString_reads⟩
  intro medium events path e s
  exact ⟨s.exists_takenByCalls, s.call_tokenize.streamReads?_le⟩

end Scanner

end KayLexer
