import BoundSql.Proofs.Writes.SetClause
import BoundSql.Tree.Builder
import Mathlib.Data.List.DropRight

/-!
# Building the assignments of an UPDATE

Columns and values of an UPDATE can be given apart, or a column together with its value. The two
lists grow on their own, and a column is given its value by position only
(`NewValues.setEntries_extend`). What was given together stays together as long as nothing adds a
column alone behind it (`Update.pairing_of_render`). A column that is added alone pushes the
values before it on to other columns: where the values were given first, the numbers still agree,
and the UPDATE is rendered.
-/

set_option autoImplicit false
set_option relaxedAutoImplicit false

namespace BoundSql

/-! ### Values, one behind the other -/

namespace NewValues

/-- The values with one more behind them. -/
def push : NewValues → Expr → NewValues
  | each values, given => each (values ++ [given])
  | fromQuery source, given => queryThenEach source [given]
  | queryThenEach source rest, given => queryThenEach source (rest ++ [given])

/-- The values with more values behind them. -/
def extend (values : NewValues) (given : List Expr) : NewValues := given.foldl push values

variable {values : NewValues} {given : List Expr} {columns : List Column}

theorem fitColumns_of_push {last : Expr} {count : Nat}
    (hfit : (values.push last).FitColumns count) :
    ∃ fewer, count = fewer + 1 ∧ values.FitColumns fewer := by
  cases values with
  | each values =>
    have hlength : (values ++ [last]).length = count := hfit
    rw [List.length_append] at hlength
    exact ⟨values.length, hlength.symm, rfl⟩
  | fromQuery source =>
    obtain ⟨hmore, hsource⟩ : 1 < count ∧ source.FitsColumns (count - 1) := hfit
    exact ⟨count - 1, by omega, hsource⟩
  | queryThenEach source rest =>
    obtain ⟨hmore, hsource⟩ : (rest ++ [last]).length < count ∧
        source.FitsColumns (count - (rest ++ [last]).length) := hfit
    rw [List.length_append, List.length_singleton] at hmore hsource
    refine ⟨count - 1, by omega, by omega, ?_⟩
    rwa [Nat.sub_sub, Nat.add_comm 1]

/-- Values that fit have at least as many columns as were added behind them. -/
theorem fitColumns_of_extend {count : Nat} (hfit : (values.extend given).FitColumns count) :
    ∃ fewer, count = fewer + given.length ∧ values.FitColumns fewer := by
  induction given generalizing values with
  | nil => exact ⟨count, rfl, hfit⟩
  | cons first rest ih =>
    obtain ⟨fewer, hcount, hpushed⟩ := ih hfit
    obtain ⟨least, hfewer, hvalues⟩ := fitColumns_of_push hpushed
    refine ⟨least, ?_, hvalues⟩
    rw [List.length_cons, hcount, hfewer]
    omega

/-- A value behind values that fit goes to the column behind theirs. -/
theorem setEntries_push (hfit : values.FitColumns columns.length) (assigned : Column)
    (last : Expr) :
    (values.push last).setEntries (columns ++ [assigned]) =
      values.setEntries columns ++ [.value assigned last] := by
  have hlength : (columns ++ [assigned]).length = columns.length + 1 := by
    rw [List.length_append, List.length_singleton]
  cases values with
  | each values =>
    have hsame : columns.length = values.length := hfit.symm
    exact List.zipWith_append hsame
  | fromQuery source =>
    have hleading : (columns ++ [assigned]).length - [last].length = columns.length := by
      rw [hlength, List.length_singleton, Nat.add_sub_cancel]
    simp only [push, setEntries, hleading, List.take_left, List.drop_left]
    rfl
  | queryThenEach source rest =>
    have hleading : (columns ++ [assigned]).length - (rest ++ [last]).length =
        columns.length - rest.length := by
      rw [hlength, List.length_append, List.length_singleton, Nat.add_sub_add_right]
    rw [push, setEntries, hleading, List.take_append_of_le_length (Nat.sub_le _ _),
      List.drop_append_of_le_length (Nat.sub_le _ _),
      List.zipWith_append (length_drop_of_fitColumns hfit)]
    rfl

/-- Values that are added behind others go to the columns behind theirs, one by one. -/
theorem setEntries_extend {last : List Column} (hlength : last.length = given.length)
    (hfit : (values.extend given).FitColumns (columns ++ last).length) :
    (values.extend given).setEntries (columns ++ last) =
      values.setEntries columns ++ List.zipWith .value last given := by
  induction given generalizing values columns last with
  | nil =>
    obtain rfl := List.eq_nil_of_length_eq_zero hlength
    rw [List.append_nil, List.zipWith_nil_left, List.append_nil]
    rfl
  | cons first rest ih =>
    obtain ⟨assigned, later, rfl⟩ := List.exists_cons_of_length_eq_add_one hlength
    have hlater : later.length = rest.length := Nat.succ_inj.mp hlength
    obtain ⟨fewer, hcount, hvalues⟩ := fitColumns_of_extend hfit
    have hfewer : columns.length = fewer := by
      rw [List.length_append, hlength] at hcount
      omega
    rw [← hfewer] at hvalues
    have hbehind : columns ++ assigned :: later = (columns ++ [assigned]) ++ later :=
      List.append_cons columns assigned later
    rw [hbehind] at hfit ⊢
    calc (values.extend (first :: rest)).setEntries ((columns ++ [assigned]) ++ later)
        = (values.push first).setEntries (columns ++ [assigned]) ++
            List.zipWith SetEntry.value later rest := ih hlater hfit
      _ = values.setEntries columns ++
            List.zipWith SetEntry.value (assigned :: later) (first :: rest) := by
          rw [setEntries_push hvalues, List.append_assoc]
          rfl

end NewValues

namespace Update

/-! ### Calls of the builder -/

/-- A call that adds to what an UPDATE assigns, or replaces the values. -/
inductive Call where
  /-- Columns are added without values. -/
  | columns (added : List Column)
  /-- The values are replaced by one for each column. -/
  | values (given : List Expr)
  /-- The values are replaced by one query. -/
  | query (source : Statement)
  /-- A column is added together with its value. -/
  | set (assigned : Column) (given : Expr)

namespace Call

/-- The UPDATE after a call. -/
def apply (update : Update) : Call → Update
  | columns added => update.assigning added
  | values given => update.givenValues given
  | query source => update.givenQuery source
  | set assigned given => update.assign assigned given

/-- The columns that a call adds. -/
def added : Call → List Column
  | columns added => added
  | set assigned _ => [assigned]
  | _ => []

/-- The column and the value that a call gives together, if it gives both. -/
def pairs : Call → List (Column × Expr)
  | set assigned given => [(assigned, given)]
  | _ => []

/-- Tells whether a call replaces the values before it. -/
def replaces : Call → Bool
  | values _ => true
  | query _ => true
  | _ => false

end Call

/-- The UPDATE of a table after calls, in their order. -/
def build (table : Table) (calls : List Call) : Update := calls.foldl Call.apply (blank table)

/-- The columns and the values that calls give together. -/
def pairs (calls : List Call) : List (Column × Expr) := calls.flatMap Call.pairs

variable {calls earlier later : List Call} {update : Update}

theorem columns_apply (update : Update) (call : Call) :
    (call.apply update).columns = update.columns ++ call.added := by
  cases call with
  | columns added => rfl
  | values given => exact (List.append_nil _).symm
  | query source => exact (List.append_nil _).symm
  | set assigned given => rfl

/-- A call that replaces no values adds the value that it gives, if it gives one. -/
theorem values_apply {call : Call} (hkept : call.replaces = false) :
    (call.apply update).values = update.values.extend (call.pairs.map Prod.snd) := by
  cases call with
  | columns added => rfl
  | set assigned given =>
    cases hvalues : update.values <;> simp only [Call.apply, assign, hvalues] <;> rfl
  | values given => cases hkept
  | query source => cases hkept

theorem columns_foldl_apply (calls : List Call) (update : Update) :
    (calls.foldl Call.apply update).columns = update.columns ++ calls.flatMap Call.added := by
  induction calls generalizing update with
  | nil => exact (List.append_nil _).symm
  | cons call calls ih =>
    rw [List.foldl_cons, ih, columns_apply, List.flatMap_cons, List.append_assoc]

/-- As long as no call replaces the values, the given values stand behind each other. -/
theorem values_foldl_apply (hkept : ∀ call ∈ calls, call.replaces = false) :
    (calls.foldl Call.apply update).values =
      update.values.extend ((pairs calls).map Prod.snd) := by
  induction calls generalizing update with
  | nil => rfl
  | cons call calls ih =>
    obtain ⟨hcall, hcalls⟩ := List.forall_mem_cons.mp hkept
    have hgiven : (pairs (call :: calls)).map Prod.snd =
        call.pairs.map Prod.snd ++ (pairs calls).map Prod.snd := by
      rw [pairs, List.flatMap_cons, List.map_append, pairs]
    rw [List.foldl_cons, ih hcalls, values_apply hcall, hgiven]
    exact List.foldl_append.symm

/-- Where nothing adds a column alone, the added columns are those of the pairs. -/
theorem flatMap_added_eq (hkept : ∀ call ∈ calls, call.replaces = false)
    (hpaired : ∀ added, Call.columns added ∈ calls → added = []) :
    calls.flatMap Call.added = (pairs calls).map Prod.fst := by
  rw [pairs, List.map_flatMap]
  apply List.flatMap_congr
  intro call hcall
  cases call with
  | columns added => exact hpaired added hcall
  | set assigned given => rfl
  | values given => cases hkept _ hcall
  | query source => cases hkept _ hcall

/-! ### The assignments in the text -/

/-- Later calls that replace no values add columns and values behind those of earlier calls. -/
theorem build_append {table : Table} (hkept : ∀ call ∈ later, call.replaces = false) :
    (build table (earlier ++ later)).columns =
        (build table earlier).columns ++ later.flatMap Call.added ∧
      (build table (earlier ++ later)).values =
        (build table earlier).values.extend ((pairs later).map Prod.snd) := by
  rw [build, List.foldl_append]
  exact ⟨columns_foldl_apply later _, values_foldl_apply hkept⟩

/-- The values that later calls give with columns go to the last columns of all. The columns are
those that they were given with if no later call adds a column alone. -/
theorem pairing_of_render {d : Dialect} {table : Table} {query : Query}
    (hkept : ∀ call ∈ later, call.replaces = false)
    (hrender : (Node.statement (.update (build table (earlier ++ later)))).render d = .ok query) :
    let update := build table (earlier ++ later)
    let paired := pairs later
    query = update.shown d update.setEntries ∧
      update.setEntries =
        (build table earlier).values.setEntries (update.columns.rdrop paired.length) ++
          List.zipWith .value (update.columns.rtake paired.length) (paired.map Prod.snd) ∧
      ((∀ added, .columns added ∈ later → added = []) →
        update.setEntries =
          (build table earlier).setEntries ++ paired.map fun pair ↦ .value pair.1 pair.2) := by
  intro update paired
  obtain ⟨hcolumns, hvalues⟩ :
      update.columns = (build table earlier).columns ++ later.flatMap Call.added ∧
        update.values = (build table earlier).values.extend (paired.map Prod.snd) :=
    build_append hkept
  have hfit : update.values.FitColumns update.columns.length := fitColumns_of_render hrender
  rw [hvalues] at hfit
  refine ⟨eq_shown hrender, ?_, fun hpaired ↦ ?_⟩
  · obtain ⟨fewer, hcount, -⟩ := NewValues.fitColumns_of_extend hfit
    rw [List.length_map] at hcount
    have hlast : (update.columns.rtake paired.length).length = (paired.map Prod.snd).length := by
      rw [List.rtake, List.length_drop, List.length_map]
      omega
    have hsplit : update.columns.rdrop paired.length ++ update.columns.rtake paired.length =
        update.columns := List.take_append_drop _ _
    rw [← hsplit] at hfit
    have hentries := NewValues.setEntries_extend hlast hfit
    rwa [hsplit, ← hvalues] at hentries
  · rw [flatMap_added_eq hkept hpaired] at hcolumns
    have hlast : (paired.map Prod.fst).length = (paired.map Prod.snd).length := by
      rw [List.length_map, List.length_map]
    rw [hcolumns] at hfit
    have hentries := NewValues.setEntries_extend hlast hfit
    rw [List.zipWith_map, List.zipWith_self] at hentries
    rw [setEntries, hvalues, hcolumns, hentries]
    rfl

end Update

/-! ### Values in their places, and out of them -/

/-- The columns that the calls below assign to belong to this table. -/
def goodsTable : Table := ⟨⟨0⟩, "goods", none⟩

/-- The name and the unit of an offer. -/
def offerLabels : Statement :=
  let offers : Table := ⟨⟨1⟩, "offers", none⟩
  .select ((Select.blank.selecting
    [.plain (.column (offers.column "name")), .plain (.column (offers.column "unit"))]).fromSource
      (.table offers))

/-- Columns that take the columns of a query. -/
def restocking : List Update.Call :=
  [.columns [goodsTable.column "name", goodsTable.column "unit"], .query offerLabels]

/-- Columns that are given with their values. -/
def stockPricing : List Update.Call :=
  [.set (goodsTable.column "price") (.literal (.int 5)),
    .set (goodsTable.column "stock") .defaultValue]

/-- The query of `restocking` and `stockPricing`. -/
def restocked : Query where
  sql :=
    "UPDATE \"goods\" AS \"b\" SET (\"name\", \"unit\") = " ++
    "(SELECT \"a\".\"name\", \"a\".\"unit\" FROM \"offers\" AS \"a\"), " ++
    "\"price\" = $1, \"stock\" = DEFAULT"
  params := [.int 5]

theorem pairing_of_restocked :
    restocked = (Update.build goodsTable (restocking ++ stockPricing)).shown .postgres
      [.query [goodsTable.column "name", goodsTable.column "unit"] offerLabels,
        .value (goodsTable.column "price") (.literal (.int 5)),
        .value (goodsTable.column "stock") .defaultValue] := by
  have hrender :
      (Node.statement (.update (Update.build goodsTable (restocking ++ stockPricing)))).render
        .postgres = .ok restocked := by decide +kernel
  have hkept : ∀ call ∈ stockPricing, call.replaces = false := by decide
  obtain ⟨hshown, -, hpaired⟩ := Update.pairing_of_render hkept hrender
  rw [hshown, hpaired (by simp [stockPricing])]
  rfl

/-- A value that waits for its column, a column with its value, and then the column. -/
def swapping : List Update.Call :=
  [.values [.literal (.text "tea")], .set (goodsTable.column "price") (.literal (.int 5)),
    .columns [goodsTable.column "name"]]

/-- The query of `swapping`. -/
def swapped : Query where
  sql := "UPDATE \"goods\" AS \"a\" SET \"price\" = $1, \"name\" = $2"
  params := [.text "tea", .int 5]

/-- No call replaces values behind the one that gives the price, and yet the price goes to the name
and the name to the price. -/
theorem swapping_pairs_wrongly :
    let update := Update.build goodsTable swapping
    (Node.statement (.update update)).render .postgres = .ok swapped ∧
      update.setEntries =
        [.value (goodsTable.column "price") (.literal (.text "tea")),
          .value (goodsTable.column "name") (.literal (.int 5))] ∧
      .value (goodsTable.column "price") (.literal (.int 5)) ∉ update.setEntries := by
  intro update
  have hentries : update.setEntries =
      [.value (goodsTable.column "price") (.literal (.text "tea")),
        .value (goodsTable.column "name") (.literal (.int 5))] := rfl
  refine ⟨by decide +kernel, hentries, ?_⟩
  rw [hentries]
  simp [goodsTable, Table.column]

end BoundSql
