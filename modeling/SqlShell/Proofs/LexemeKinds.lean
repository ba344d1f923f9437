import SqlShell.TableRef

namespace SqlShell.Proofs

section
variable {l : Lexeme}

theorem keyword_iff {k : Keyword} : l.isKeyword k = true ↔ l.kind = .keyword k := by
  obtain ⟨kind, text⟩ := l
  cases kind <;> simp [Lexeme.isKeyword, Lexeme.keyword?]

theorem mark_iff {c : Char} : l.isMark c = true ↔ l.kind = .punctuation ∧ l.text = [unit c] := by
  simp only [Lexeme.isMark, Lexeme.isPunctuation, Bool.and_eq_true, beq_iff_eq]

theorem keyword_of_mark {c : Char} (h : l.isMark c = true) : l.keyword? = none := by
  rw [Lexeme.keyword?, (mark_iff.mp h).1]

theorem significant_of_isKeyword {k : Keyword} (h : l.isKeyword k = true) :
    l.isSignificant = true := by
  rw [Lexeme.isSignificant, keyword_iff.mp h]

/-- A keyword is no other one. -/
theorem isKeyword_unique {j k : Keyword} (h : l.isKeyword j = true) (hn : j ≠ k) :
    l.isKeyword k = false := by
  rw [Bool.eq_false_iff]
  intro hk
  rw [keyword_iff] at h hk
  exact hn (Lexeme.Kind.keyword.inj (h.symm.trans hk))

/-- A mark is no other one. -/
theorem isMark_unique {c d : Char} (h : l.isMark c = true) (hn : unit c ≠ unit d) :
    l.isMark d = false := by
  rw [Bool.eq_false_iff]
  intro hd
  exact hn (List.cons.inj ((mark_iff.mp h).2.symm.trans (mark_iff.mp hd).2)).1

theorem unmarked_of_isKeyword {k : Keyword} (h : l.isKeyword k = true) (c : Char) :
    l.isMark c = false := by
  rw [Bool.eq_false_iff]
  intro hm
  have hk := (keyword_iff.mp h).symm.trans (mark_iff.mp hm).1
  contradiction

theorem unmarked_of_insignificant (h : l.isSignificant = false) (c : Char) :
    l.isMark c = false := by
  rw [Bool.eq_false_iff]
  intro hm
  rw [Lexeme.isSignificant, (mark_iff.mp hm).1] at h
  contradiction

theorem not_keyword_of_mark {c : Char} (h : l.isMark c = true) (k : Keyword) :
    l.isKeyword k = false := by
  rw [Bool.eq_false_iff]
  intro hk
  rw [unmarked_of_isKeyword hk c] at h
  contradiction

theorem not_nameLike_of_mark {c : Char} (h : l.isMark c = true) : l.isNameLike = false := by
  rw [Lexeme.isNameLike, Lexeme.isName, Lexeme.keyword?, (mark_iff.mp h).1]
  rfl

theorem unmarked_of_nameLike (h : l.isNameLike = true) (c : Char) : l.isMark c = false := by
  rw [Bool.eq_false_iff]
  intro hm
  rw [not_nameLike_of_mark hm] at h
  contradiction

/-- Only some keywords are read as names. -/
theorem isName_of_nameLike {k : Keyword} (h : l.isNameLike = true) (hk : l.isKeyword k = true) :
    k.isName = true := by
  rw [Lexeme.isNameLike, Lexeme.isName, Lexeme.keyword?, keyword_iff.mp hk] at h
  exact h

theorem not_keyword_of_nameLike {k : Keyword} (h : l.isNameLike = true) (hk : k.isName = false) :
    l.isKeyword k = false := by
  rw [Bool.eq_false_iff]
  intro hl
  rw [isName_of_nameLike h hl] at hk
  contradiction

theorem keywordOf_iff {ks : List Keyword} :
    l.isKeywordOf ks = true ↔ ∃ k ∈ ks, l.isKeyword k = true := by
  rw [Lexeme.isKeywordOf, Option.any_eq_true]
  simp [Lexeme.isKeyword, and_comm]

end

end SqlShell.Proofs
