import Mathlib.Data.List.Induction
import Mathlib.Data.List.Nodup
import Mathlib.Logic.Function.Basic
import SqlShell.Proofs.Columns
import SqlShell.Schema.Reading

namespace SqlShell.Proofs
open SchemaReading

/-- Entries that a function gives to these keys. -/
def listing (f : κ → β) (keys : List κ) : List (κ × β) := keys.map (fun k => (k, f k))

theorem listing_congr {f g : κ → β} {keys : List κ} (h : ∀ k ∈ keys, f k = g k) :
    listing f keys = listing g keys := by
  apply List.map_congr_left
  intro k hk
  simp [h k hk]

section
variable {κ β : Type} [DecidableEq κ] {key : κ} {value : β} {f : κ → β} {keys : List κ}

/-- A new key goes behind the others, and the others keep their values. -/
theorem insertEntry_listing (h : keys.Nodup) :
    OrderedMap.insertEntry key value (listing f keys) =
      listing (Function.update f key value) (if key ∈ keys then keys else keys ++ [key]) := by
  induction keys with
  | nil => simp [listing, OrderedMap.insertEntry]
  | cons k keys ih =>
    obtain ⟨hk, hkeys⟩ := List.nodup_cons.mp h
    by_cases hkey : k = key
    · subst hkey
      have hrest : listing (Function.update f k value) keys = listing f keys := by
        apply listing_congr
        rintro l hl
        apply Function.update_of_ne
        rintro rfl
        exact hk hl
      simp only [listing] at hrest
      simp [listing, OrderedMap.insertEntry, hrest]
    · have hstep := ih hkeys
      simp only [listing] at hstep
      by_cases hm : key ∈ keys
      · simp [listing, OrderedMap.insertEntry, hkey, hm, hstep]
      · simp [listing, OrderedMap.insertEntry, hkey, Ne.symm hkey, hm, hstep]

theorem ofList_listing (h : keys.Nodup) :
    OrderedMap.ofList (listing f keys) = ⟨listing f keys⟩ := by
  induction keys using List.reverseRecOn with
  | nil => rfl
  | append_singleton keys k ih =>
    obtain ⟨hkeys, -, hdisjoint⟩ := List.nodup_append.mp h
    have hk : k ∉ keys := fun hm => hdisjoint k hm k (List.mem_singleton_self k) rfl
    have hgrow : OrderedMap.ofList (listing f (keys ++ [k])) =
        (OrderedMap.ofList (listing f keys)).insert k (f k) := by
      simp [OrderedMap.ofList, OrderedMap.insertAll, listing]
    rw [hgrow, ih hkeys, OrderedMap.insert, insertEntry_listing hkeys, Function.update_eq_self,
      if_neg hk]

end

section
variable [BEq κ] [LawfulBEq κ]

theorem lookup_listing (f : κ → β) (key : κ) (keys : List κ) :
    (listing f keys).lookup key = if key ∈ keys then some (f key) else none := by
  induction keys with
  | nil => rfl
  | cons k keys ih =>
    by_cases hk : key = k
    · subst hk
      simp [listing]
    · have hne : (key == k) = false := by simp [hk]
      simp only [listing, List.map_cons, List.lookup_cons, hne, List.mem_cons, hk, false_or]
      exact ih

theorem eraseDups_snoc (items : List κ) (a : κ) :
    (items ++ [a]).eraseDups = if a ∈ items then items.eraseDups else items.eraseDups ++ [a] := by
  simp only [List.eraseDups_append, List.removeAll]
  split
  · simp_all
  · simp_all [List.eraseDups_cons]

theorem nodup_eraseDups (items : List κ) : items.eraseDups.Nodup := by
  induction items using List.reverseRecOn with
  | nil => simp
  | append_singleton items a ih =>
    rw [eraseDups_snoc]
    split
    · exact ih
    · rename_i ha
      simp only [List.nodup_append, ih, List.nodup_singleton, List.mem_eraseDups, true_and]
      rintro b hb c hc rfl
      obtain rfl := List.mem_singleton.mp hc
      exact ha hb

end

/-- The columns that these rows give to a relation, in the order of the rows. -/
def columnsOf (rows : List RelationColumn) (name : Text) : List Text :=
  (rows.filter (fun r => r.relation == name)).map RelationColumn.column

/-- The relations of some rows in the order of first appearance, each with its columns. -/
def grouped (rows : List RelationColumn) : List (Text × List Text) :=
  listing (columnsOf rows) (rows.map RelationColumn.relation).eraseDups

theorem columnsOf_snoc (rows : List RelationColumn) (r : RelationColumn) :
    columnsOf (rows ++ [r]) =
      Function.update (columnsOf rows) r.relation (columnsOf rows r.relation ++ [r.column]) := by
  funext name
  by_cases hname : name = r.relation
  · subst hname
    simp [columnsOf]
  · simp [columnsOf, hname, Ne.symm hname]

theorem columnsOf_absent {rows : List RelationColumn} {name : Text}
    (h : name ∉ rows.map RelationColumn.relation) : columnsOf rows name = [] := by
  simp only [columnsOf, List.map_eq_nil_iff, List.filter_eq_nil_iff, beq_iff_eq]
  rintro r hr rfl
  exact h (List.mem_map_of_mem hr)

/-- Rows of one relation need not stand together. -/
theorem entries_groupColumns (rows : List RelationColumn) :
    (groupColumns rows).entries = grouped rows := by
  induction rows using List.reverseRecOn with
  | nil => rfl
  | append_singleton rows r ih =>
    have hstep : groupColumns (rows ++ [r]) = addColumn (groupColumns rows) r := by
      simp [groupColumns]
    have hfound : ((groupColumns rows).lookup r.relation).getD [] = columnsOf rows r.relation := by
      simp only [OrderedMap.lookup, ih, grouped, lookup_listing, List.mem_eraseDups]
      split
      · rfl
      · rename_i habsent
        exact (columnsOf_absent habsent).symm
    have hnames := eraseDups_snoc (rows.map RelationColumn.relation) r.relation
    simp only [grouped, hstep, addColumn, hfound, OrderedMap.insert, ih,
      insertEntry_listing (nodup_eraseDups _), columnsOf_snoc, List.mem_eraseDups, ← hnames,
      List.map_append, List.map_singleton]

/-- Each row belongs to the group of its relation and to no other. -/
theorem groups_perm (rows : List RelationColumn) :
    ((rows.map RelationColumn.relation).eraseDups.flatMap
      (fun name => rows.filter (fun r => r.relation == name))).Perm rows := by
  induction hn : rows.length using Nat.strongRecOn generalizing rows with
  | ind n ih =>
    cases rows with
    | nil => exact .refl []
    | cons r rows =>
      -- the first group takes all rows of its relation, and the others share what it leaves
      let others := (r :: rows).filter (fun q => !(q.relation == r.relation))
      have hnames : ((r :: rows).map RelationColumn.relation).eraseDups =
          r.relation :: (others.map RelationColumn.relation).eraseDups := by
        simp [List.eraseDups_cons, others, List.filter_map, Function.comp_def]
      have hrest : (others.map RelationColumn.relation).eraseDups.flatMap
            (fun name => (r :: rows).filter (fun q => q.relation == name)) =
          (others.map RelationColumn.relation).eraseDups.flatMap
            (fun name => others.filter (fun q => q.relation == name)) := by
        apply List.flatMap_congr
        intro name hname
        obtain ⟨q, hq, rfl⟩ := List.mem_map.mp (List.mem_eraseDups.mp hname)
        have hne : q.relation ≠ r.relation := by simpa using (List.mem_filter.mp hq).2
        simp only [others, List.filter_filter]
        apply List.filter_congr
        intro x _
        by_cases hx : x.relation = q.relation
        · simp [hx, hne]
        · simp [hx]
      have hshort : others.length < n := by
        have hle : (rows.filter (fun q => !(q.relation == r.relation))).length ≤ rows.length :=
          List.length_filter_le ..
        simp only [List.length_cons] at hn
        simp only [others, List.filter_cons, beq_self_eq_true, Bool.not_true, Bool.false_eq_true,
          if_false]
        omega
      rw [hnames, List.flatMap_cons, hrest]
      exact ((ih others.length hshort others rfl).append_left _).trans
        (List.filter_append_perm ..)

/-- One row for each column of some tables, or of some views. -/
def rowsOf (isView : Bool) (relations : List Relation) : List RelationColumn :=
  relations.flatMap (fun r => r.2.map (fun column => ⟨r.1, isView, column⟩))

/-- The tables and views of a snapshot are what these rows say. -/
structure ListsRows (s : SchemaSnapshot) (rows : List RelationColumn) : Prop where
  tables : s.tables.entries = grouped (rows.filter (fun r => !r.isView))
  views : s.views.entries = grouped (rows.filter (fun r => r.isView))
  /-- No row is lost, made up, or taken for one of another relation or kind. -/
  accounted : (rowsOf false s.tables.entries ++ rowsOf true s.views.entries).Perm rows
  oneEach : (s.relations.flatMap Prod.snd).length = rows.length
  /-- Under its name each relation is found with its own columns. -/
  provider : (s.relations.map (fun r => r.1.lower)).Nodup →
    ∀ r ∈ s.relations, s.columns r.1 = r.2

theorem rowsOf_grouped {isView : Bool} {rows : List RelationColumn}
    (h : ∀ r ∈ rows, r.isView = isView) : (rowsOf isView (grouped rows)).Perm rows := by
  have hgroups : rowsOf isView (grouped rows) =
      (rows.map RelationColumn.relation).eraseDups.flatMap
        (fun name => rows.filter (fun r => r.relation == name)) := by
    simp only [rowsOf, grouped, listing, List.flatMap_map, columnsOf, List.map_map]
    apply List.flatMap_congr
    intro name _
    rw [List.map_congr_left (g := id), List.map_id]
    intro r hr
    obtain ⟨hm, hname⟩ := List.mem_filter.mp hr
    simp [← h r hm, ← eq_of_beq hname]
  rw [hgroups]
  exact groups_perm rows

theorem length_rowsOf (isView : Bool) (relations : List Relation) :
    (rowsOf isView relations).length = (relations.flatMap Prod.snd).length := by
  simp [rowsOf, List.length_flatMap]

/-- Among names that differ in small letters each is found as itself. -/
theorem columns_of_distinct {s : SchemaSnapshot} {r : Relation}
    (h : (s.relations.map (fun r => r.1.lower)).Nodup) (hr : r ∈ s.relations) :
    s.columns r.1 = r.2 := by
  obtain ⟨q, hq, hlast⟩ := exists_last hr
  have hname : q.1.lower = r.1.lower := by
    obtain ⟨-, -, -, hname, -⟩ := hlast
    exact hname
  obtain rfl : q = r := List.inj_on_of_nodup_map h hq hr hname
  exact columns_of_last hlast

theorem listsRows_snapshot (r : Required) (pragmas functions : List Text) (now : Millis) :
    ListsRows (r.snapshot pragmas functions now) r.columns := by
  let isTable (c : RelationColumn) : Bool := !c.isView
  let isView (c : RelationColumn) : Bool := c.isView
  have hkept (rows : List RelationColumn) :
      (OrderedMap.ofList (groupColumns rows).entries).entries = grouped rows := by
    rw [entries_groupColumns, grouped, ofList_listing (nodup_eraseDups _)]
  have htables : (r.snapshot pragmas functions now).tables.entries =
      grouped (r.columns.filter isTable) := hkept _
  have hviews : (r.snapshot pragmas functions now).views.entries =
      grouped (r.columns.filter isView) := hkept _
  have haccounted : (rowsOf false (r.snapshot pragmas functions now).tables.entries ++
      rowsOf true (r.snapshot pragmas functions now).views.entries).Perm r.columns := by
    rw [htables, hviews]
    have htable : ∀ c ∈ r.columns.filter isTable, c.isView = false := by
      intro c hc
      simpa [isTable] using (List.mem_filter.mp hc).2
    have hview : ∀ c ∈ r.columns.filter isView, c.isView = true :=
      fun c hc => (List.mem_filter.mp hc).2
    apply ((rowsOf_grouped htable).append (rowsOf_grouped hview)).trans
    exact List.perm_append_comm.trans (List.filter_append_perm isView r.columns)
  refine ⟨htables, hviews, haccounted, ?_, fun hdistinct q hq => columns_of_distinct hdistinct hq⟩
  have hlength := haccounted.length_eq
  simp only [List.length_append, length_rowsOf] at hlength
  rw [SchemaSnapshot.relations, List.flatMap_append, List.length_append, Nat.add_comm]
  exact hlength

theorem columns_of_required {c : Connection σ} {w : World σ} {p : Prepared} {r : Required}
    (hp : (c.execute relationsSql [] w).1 = .ok p) (hr : (required c w).1 = .ok r) :
    r.columns = p.rows.map (RelationColumn.ofRow p) := by
  have hcolumns : (relationColumns c w).1 = .ok (p.rows.map (RelationColumn.ofRow p)) := by
    simp [relationColumns, hp, Except.map]
  unfold required at hr
  split at hr
  · contradiction
  · rename_i columns v hread
    have hsame : columns = p.rows.map (RelationColumn.ofRow p) := by
      simpa [hread] using hcolumns
    split at hr
    · contradiction
    · split at hr
      · contradiction
      · obtain rfl := Except.ok.inj hr
        exact hsame

/-- Whatever rows a connection gives for its relations, in whatever order, a snapshot lists just the
relations that they name: those of the rows for views as views and those of all other rows as
tables, in the order of first appearance and each with the columns of its own rows. A snapshot is
made as soon as the connection answers for everything that it may not leave out. -/
theorem snapshot_lists_rows {c : Connection σ} {w : World σ} {p : Prepared}
    (hp : (c.execute relationsSql [] w).1 = .ok p) (logger : Logger) :
    let rows := p.rows.map (RelationColumn.ofRow p)
    let outcome := (SchemaReading.snapshot c logger w).1
    ((∃ s, outcome = .ok s) ↔ ∃ r, (required c w).1 = .ok r) ∧
      ∀ s, outcome = .ok s → ListsRows s rows := by
  intro rows outcome
  cases hr : required c w with
  | mk answer v =>
    cases answer with
    | error f =>
      have hnone : outcome = .error f := by simp [outcome, SchemaReading.snapshot, hr]
      simp [hnone]
    | ok r =>
      have hcolumns : r.columns = rows := columns_of_required hp (by rw [hr])
      obtain ⟨pragmas, functions, now, hs⟩ : ∃ pragmas functions now,
          outcome = .ok (r.snapshot pragmas functions now) := by
        simp only [outcome, SchemaReading.snapshot, hr]
        exact ⟨_, _, _, rfl⟩
      refine ⟨⟨fun _ => ⟨r, rfl⟩, fun _ => ⟨_, hs⟩⟩, ?_⟩
      intro s hout
      obtain rfl := Except.ok.inj (hs.symm.trans hout)
      rw [← hcolumns]
      exact listsRows_snapshot r pragmas functions now

/-- A database whose relations are given by these rows and which has nothing else to tell. It counts
the queries. -/
def telling (rows : List (Text × Text × Text)) : Database Nat where
  prepare _ asked :=
    let answer : Prepared :=
      { columns := some ["relation", "type", "column"], failure := none, changes := 0, steps := []
        rows := if asked = 0 then
          rows.map (fun (relation, type, column) => [.text relation, .text type, .text column])
        else [] }
    (⟨0, false, .ok answer⟩, asked + 1)
  isReadOnly _ := false
  inTransaction _ := false

/-- The rows of a table stand apart, and those of a view between them. -/
theorem snapshot_of_scattered_rows :
    let rows : List (Text × Text × Text) := [("b", "table", "x"), ("v", "view", "x"),
      ("a", "table", "y"), ("b", "table", "z")]
    let c : Connection Nat := ⟨telling rows, id⟩
    let tables : List Relation := [("b", ["x", "z"]), ("a", ["y"])]
    let views : List Relation := [("v", ["x"])]
    (∃ p, (c.execute relationsSql [] { database := 0 }).1 = .ok p) ∧
      ∃ s, (SchemaReading.snapshot c {} { database := 0 }).1 = .ok s ∧
        s.tables.entries = tables ∧ s.views.entries = views ∧ s.columns "b" = ["x", "z"] := by
  intro rows c tables views
  let w : World Nat := { database := 0 }
  obtain ⟨p, hp⟩ : ∃ p, (c.execute relationsSql [] w).1 = .ok p := ⟨_, rfl⟩
  obtain ⟨hmade, hlists⟩ := snapshot_lists_rows hp {}
  obtain ⟨s, hs⟩ := hmade.mpr ⟨_, rfl⟩
  have hrows : p.rows.map (RelationColumn.ofRow p) = [⟨"b", false, "x"⟩, ⟨"v", true, "x"⟩,
      ⟨"a", false, "y"⟩, ⟨"b", false, "z"⟩] := by
    obtain rfl := Except.ok.inj hp
    decide +kernel
  have h := hlists s hs
  rw [hrows] at h
  have htables : s.tables.entries = tables := h.tables.trans (by decide +kernel)
  have hviews : s.views.entries = views := h.views.trans (by decide +kernel)
  have hrelations : s.relations = views ++ tables := by
    simp [SchemaSnapshot.relations, htables, hviews]
  refine ⟨⟨p, hp⟩, s, hs, htables, hviews, ?_⟩
  apply h.provider (r := ("b", ["x", "z"]))
  · rw [hrelations]
    decide +kernel
  · simp [hrelations, tables]

end SqlShell.Proofs
