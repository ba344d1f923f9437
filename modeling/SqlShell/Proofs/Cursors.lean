import SqlShell.Proofs.Spacing
import SqlShell.Proofs.Tiling

namespace SqlShell.Proofs

/-- Items that fill a stretch of text leave no place of it out. -/
theorem Tiles.covers {start stop : α → Nat} {i k c : Nat} {items : List α}
    (h : Tiles start stop i k items) (hlow : i < c) (hhigh : c ≤ k) :
    ∃ a ∈ items, start a < c ∧ c ≤ stop a := by
  induction items generalizing i with
  | nil =>
    obtain rfl : i = k := h
    omega
  | cons a rest ih =>
    obtain ⟨rfl, hrest⟩ := h
    rcases Nat.lt_or_ge (stop a) c with hbehind | hin
    · obtain ⟨b, hb, hc⟩ := ih hrest hbehind
      exact ⟨b, List.mem_cons_of_mem _ hb, hc⟩
    · exact ⟨a, List.mem_cons_self, hlow, hin⟩

theorem exists_token_at {sql : Text} {cursor : Nat} (hpos : 0 < cursor)
    (hlen : cursor ≤ sql.length) :
    ∃ t ∈ tokenize sql, t.start < cursor ∧ cursor ≤ t.stop :=
  (tiles_tokenize sql).covers hpos hlen

/-- No two tokens hold the same cursor. -/
theorem Ordered.unique {ts : List Token} (h : Ordered ts) {t u : Token} {cursor : Int}
    (ht : t ∈ ts) (hlow : t.start < cursor) (hhigh : cursor ≤ t.stop)
    (hu : u ∈ ts) (hlow' : u.start < cursor) (hhigh' : cursor ≤ u.stop) : u = t := by
  have hat := h.atCursor ht hlow hhigh
  rw [h.atCursor hu hlow' hhigh'] at hat
  exact Option.some.inj hat

theorem not_mark_of_kind {l : Lexeme} {c : Char} (h : l.kind ≠ .punctuation) :
    l.isMark c = false := by
  simp [Lexeme.isMark, Lexeme.isPunctuation, h]

theorem stop_of_placed {n : Nat} {ls : List Lexeme} {t : Token} (ht : t ∈ placeFrom n ls) :
    t.stop ≤ n + (spell ls).length := by
  induction ls generalizing n with
  | nil => simp [placeFrom] at ht
  | cons l ls ih =>
    rw [spell_cons, List.length_append]
    rw [placeFrom] at ht
    rcases List.mem_cons.mp ht with rfl | ht
    · rw [Token.stop, ← Nat.add_assoc]
      exact Nat.le_add_right _ _
    · have hstop := ih ht
      omega

theorem Placed.bounds {start : Nat} {ts : List Token} {t : Token} (h : Placed start ts)
    (ht : t ∈ ts) : start ≤ t.start ∧ t.stop ≤ start + (written ts).length := by
  obtain ⟨ls, rfl⟩ := h
  rw [written_placeFrom]
  exact ⟨start_of_placed ht, stop_of_placed ht⟩

theorem Placed.front {start : Nat} {ts us : List Token} (h : Placed start (ts ++ us)) :
    Placed start ts := by
  obtain ⟨ls, hs⟩ := h
  obtain ⟨ms, -, -, hm, -⟩ := placeFrom_split hs.symm
  exact ⟨ms, hm⟩

/-- A cursor in a token stands in the statement of the token, also at the end of the token: a
statement ends behind its semicolon. -/
theorem Split.at_token {cursor : Int} {t : Token} (h : Split start ts ss) (hp : Placed start ts)
    (hs : s ∈ ss) (ht : t ∈ s.tokens) (hlow : t.start < cursor) (hhigh : cursor ≤ t.stop)
    (he : ss = first :: rest) : Statement.at cursor first rest = s := by
  induction h generalizing first rest with
  | last =>
    obtain ⟨rfl, rfl⟩ := List.cons.inj he
    exact (List.mem_singleton.mp hs).symm
  | @cons body u more ss start h hu htail ih =>
    obtain ⟨rfl, rfl⟩ := List.cons.inj he
    obtain ⟨hstop, hmore⟩ := hp.behind (text_of_mark (mark_of_endsAt hu))
    have hend : Statement.stop ⟨start, body, true⟩ = u.stop := by rw [stop_ended, hstop]
    cases ss with
    | nil => exact absurd rfl htail.nonempty
    | cons next ss =>
      rw [Statement.at, hend]
      rcases List.mem_cons.mp hs with rfl | hs
      · obtain ⟨hfrom, hto⟩ := hp.front.bounds ht
        refine if_pos ?_
        simp only [Bool.and_eq_true, decide_eq_true_eq]
        omega
      · have hfrom := (hmore.bounds ((htail.part hs).subset ht)).1
        rw [if_neg, ih hmore hs rfl]
        simp only [Bool.and_eq_true, decide_eq_true_eq]
        omega

theorem Split.start_le {t : Token} (h : Split start ts ss) (hp : Placed start ts) (hs : s ∈ ss)
    (ht : t ∈ s.tokens) : s.start ≤ t.start := by
  induction h with
  | last =>
    obtain rfl := List.mem_singleton.mp hs
    exact (hp.bounds ht).1
  | cons h hu _ ih =>
    rcases List.mem_cons.mp hs with rfl | hs
    · exact (hp.front.bounds ht).1
    · exact ih (hp.behind (text_of_mark (mark_of_endsAt hu))).2 hs

section
variable {sql : Text} {s : Statement} {t : Token} {cursor : Int}

theorem statementAt_token (hs : s ∈ statements sql) (ht : t ∈ s.tokens) (hlow : t.start < cursor)
    (hhigh : cursor ≤ t.stop) : statementAt sql cursor = s :=
  (split_statements sql).at_token (placed_tokenize sql) hs ht hlow hhigh rfl

/-- Only a semicolon can stand outside of all statements. -/
theorem statement_of_token (ht : t ∈ tokenize sql) (hm : t.isMark ';' = false) :
    ∃ s ∈ statements sql, t ∈ s.tokens := by
  rw [← (split_statements sql).wholeTokens (placed_tokenize sql)] at ht
  obtain ⟨s, hs, ht⟩ := List.mem_flatMap.mp ht
  refine ⟨s, hs, ?_⟩
  rcases List.mem_append.mp ht with ht | ht
  · exact ht
  · split at ht
    · rw [List.mem_singleton.mp ht] at hm
      contradiction
    · exact absurd ht List.not_mem_nil

theorem token_of_statement (hs : s ∈ statements sql) (ht : t ∈ s.tokens) : t ∈ tokenize sql :=
  ((split_statements sql).part hs).subset ht

theorem ordered_statement (hs : s ∈ statements sql) : Ordered s.tokens :=
  (ordered_tokenize sql).sublist ((split_statements sql).part hs).sublist

theorem start_le_of_token (hs : s ∈ statements sql) (ht : t ∈ s.tokens) : s.start ≤ t.start :=
  (split_statements sql).start_le (placed_tokenize sql) hs ht

end

end SqlShell.Proofs
