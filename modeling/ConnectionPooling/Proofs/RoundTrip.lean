/-
# A configuration file is read back as it was written

Writing a file that has no flaw, and reading what was written, gives the same file again: no
text is changed by quotes, backslashes, line ends or control characters, what was left out
stays left out, and a part that is there but says nothing stays there.

The text of a file is a row of lines, and the reader takes them for the statements that they
are. The statements of a part grow the table that was begun last: `Opens` says where that is
in the tree. In the end each field is found in the table under its name.

A file keeps its properties in an order, and writes them in that order. The order says
nothing, so that a file may be written with its properties in any other one.
-/

import ConnectionPooling.Config.Toml
import ConnectionPooling.Proofs.Lines

namespace ConnectionPooling

open Document (Value)

/-! ## Trees -/

namespace Toml

/-- Values as nodes of a tree. -/
def nodes (entries : List (String × Value)) : Entries :=
  entries.map fun entry => (entry.1, .value entry.2)

/-- Assignments of values to names. -/
def assigns (entries : List (String × Value)) : List Statement :=
  entries.map fun entry => .assign [] entry.1 entry.2

namespace Entries

theorem names_nodes (entries : List (String × Value)) :
    (nodes entries).map Prod.fst = entries.map Prod.fst := by
  unfold nodes
  rw [List.map_map]
  rfl

theorem toPairs_append (first second : Entries) :
    toPairs (first ++ second) = toPairs first ++ toPairs second := by
  induction first with
  | nil => rfl
  | cons entry first ih =>
    obtain ⟨name, node⟩ := entry
    rw [List.cons_append, toPairs, toPairs, ih, List.cons_append]

theorem toPairs_nodes (entries : List (String × Value)) : toPairs (nodes entries) = entries := by
  induction entries with
  | nil => rfl
  | cons entry entries ih =>
    show toPairs ((entry.1, .value entry.2) :: nodes entries) = _
    rw [toPairs, ih]
    rfl

/-- A new name comes last. -/
theorem alter_fresh {name : String} {entries : Entries} (fresh : name ∉ entries.map Prod.fst)
    (change : Option Node → Option Node) :
    alter name change entries = (change none).map fun node => entries ++ [(name, node)] := by
  induction entries with
  | nil => rfl
  | cons entry entries ih =>
    obtain ⟨n, node⟩ := entry
    simp only [List.map_cons, List.mem_cons, not_or] at fresh
    rw [alter, if_neg (Ne.symm fresh.1), ih fresh.2, Option.map_map]
    rfl

/-- A name that is there is changed where it stands. -/
theorem alter_found {name : String} {before : Entries} (fresh : name ∉ before.map Prod.fst)
    (node : Node) (after : Entries) (change : Option Node → Option Node) :
    alter name change (before ++ (name, node) :: after) =
      (change (some node)).map fun node => before ++ (name, node) :: after := by
  induction before with
  | nil => exact if_pos rfl
  | cons entry before ih =>
    obtain ⟨n, other⟩ := entry
    simp only [List.map_cons, List.mem_cons, not_or] at fresh
    rw [List.cons_append, alter, if_neg (Ne.symm fresh.1), ih fresh.2, Option.map_map]
    rfl

theorem put_fresh {name : String} {entries : Entries} (fresh : name ∉ entries.map Prod.fst)
    (value : Value) :
    put [] name value entries = some (entries ++ [(name, .value value)]) := by
  unfold put
  rw [alterAt]
  show add name value entries = _
  unfold add
  rw [alter_fresh fresh]
  rfl

/-- The table that a path leads to. All changes at the end of the path are changes of this
table, and nothing else in the tree is touched. -/
def Opens (path : List String) (hole : Entries → Entries) : Prop :=
  ∀ (change : Origin → Entries → Option Entries) (inner : Entries),
    alterAt false change path .header (hole inner) = (change .header inner).map hole

theorem opens_nil : Opens [] id := fun change inner => by
  rw [alterAt]
  exact Option.map_id'.symm

/-- A path goes on through a table that has a header. -/
theorem Opens.cons {path : List String} {hole : Entries → Entries} (opens : Opens path hole)
    {name : String} {before : Entries} (fresh : name ∉ before.map Prod.fst) (after : Entries) :
    Opens (name :: path) fun inner => before ++ (name, .table .header (hole inner)) :: after := by
  intro change inner
  rw [alterAt, alter_found fresh]
  dsimp only
  rw [Bool.false_and, if_neg Bool.false_ne_true, opens, Option.map_map, Option.map_map]
  rfl

end Entries

namespace Tree

open Entries

variable {here : List String} {hole : Entries → Entries} (opens : Opens here hole)

include opens

/-- New names are added to the table that was begun last, in the order of the lines. -/
theorem follow_assigns {inner : Entries} {entries : List (String × Value)}
    (distinct : (inner.map Prod.fst ++ entries.map Prod.fst).Nodup) :
    (assigns entries).foldlM follow ⟨hole inner, here⟩ =
      some ⟨hole (inner ++ nodes entries), here⟩ := by
  induction entries generalizing inner with
  | nil =>
    show some (Tree.mk (hole inner) here) = _
    rw [show inner ++ nodes [] = inner from List.append_nil inner]
  | cons entry entries ih =>
    obtain ⟨name, value⟩ := entry
    have apart := List.nodup_append.1 distinct
    have fresh : name ∉ inner.map Prod.fst := fun old =>
      apart.2.2 name old name List.mem_cons_self rfl
    have step : follow ⟨hole inner, here⟩ (.assign [] name value) =
        some ⟨hole (inner ++ [(name, .value value)]), here⟩ := by
      unfold follow
      dsimp only
      rw [opens, put_fresh fresh]
      rfl
    have later : ((inner ++ [(name, Node.value value)]).map Prod.fst ++
        entries.map Prod.fst).Nodup := by
      rw [List.map_append, List.append_assoc]
      exact distinct
    show (follow ⟨hole inner, here⟩ (.assign [] name value)).bind _ = _
    rw [step]
    refine (ih later).trans ?_
    rw [List.append_assoc]
    rfl

/-- A header begins an empty table. -/
theorem follow_header {inner : Entries} {name : String} (fresh : name ∉ inner.map Prod.fst)
    (elsewhere : List String) :
    [Statement.beginTable here name].foldlM follow ⟨hole inner, elsewhere⟩ =
      some ⟨hole (inner ++ [(name, .table .header [])]), here ++ [name]⟩ := by
  have step : follow ⟨hole inner, elsewhere⟩ (.beginTable here name) =
      some ⟨hole (inner ++ [(name, .table .header [])]), here ++ [name]⟩ := by
    unfold follow beginTable
    dsimp only
    rw [opens, alter_fresh fresh]
    rfl
  exact congrArg (Option.bind · some) step

end Tree

end Toml

/-! ## What a file says -/

/-- The named value of a field, if there is something to say. -/
def fieldEntry {α : Type} (name : String) (toValue : α → Value) : Option α → List (String × Value)
  | none => []
  | some value => [(name, toValue value)]

/-- A whole number as a value. -/
def Document.Value.ofNat (n : Nat) : Value :=
  .int n

/-- Properties as named values. -/
def Properties.entries (properties : Properties) : List (String × Value) :=
  properties.pairs.map fun pair => (pair.1, .text pair.2)

/-- What is said about opening, but for the properties. -/
def SourceSection.entries (part : SourceSection) : List (String × Value) :=
  fieldEntry "url" .text (some part.url) ++
  fieldEntry "username" .text part.username ++
  fieldEntry "password" .text part.password ++
  fieldEntry "auto_commit" .bool part.autoCommit ++
  fieldEntry "isolation" (fun level => .text level.configName) part.isolation ++
  fieldEntry "network_timeout_ms" .ofNat part.networkTimeoutMillis

/-- What is said about pooling. -/
def PolicySection.entries (part : PolicySection) : List (String × Value) :=
  fieldEntry "max_active" .ofNat part.maxActive ++
  fieldEntry "max_idle" .ofNat part.maxIdle ++
  fieldEntry "max_checkout_time_ms" .ofNat part.maxCheckoutMillis ++
  fieldEntry "time_to_wait_ms" .ofNat part.timeToWaitMillis ++
  fieldEntry "local_bad_connection_tolerance" .ofNat part.tolerance ++
  fieldEntry "ping_enabled" .bool part.pingEnabled ++
  fieldEntry "ping_query" .text part.pingQuery ++
  fieldEntry "ping_not_used_for_ms" .ofNat part.pingNotUsedForMillis

/-- All whole numbers in the part about pooling. -/
def PolicySection.numbers (part : PolicySection) : List Nat :=
  [part.maxActive, part.maxIdle, part.maxCheckoutMillis, part.timeToWaitMillis, part.tolerance,
    part.pingNotUsedForMillis].filterMap id

theorem names_fieldEntry {α : Type} (name : String) (toValue : α → Value) (field : Option α) :
    ((fieldEntry name toValue field).map Prod.fst).Sublist [name] := by
  cases field with
  | none => exact List.nil_sublist _
  | some value => exact List.Sublist.refl _

theorem lookup_fieldEntry {α : Type} (name : String) (toValue : α → Value) (field : Option α)
    (other : String) :
    (fieldEntry name toValue field).lookup other =
      if other = name then field.map toValue else none := by
  cases field with
  | none => split <;> rfl
  | some value =>
    unfold fieldEntry
    rw [List.lookup_cons]
    by_cases same : other = name
    · rw [if_pos same, beq_iff_eq.2 same]
      rfl
    · rw [if_neg same, beq_eq_false_iff_ne.2 same]
      rfl

theorem SourceSection.names_entries (part : SourceSection) :
    (part.entries.map Prod.fst).Sublist
      ["url", "username", "password", "auto_commit", "isolation", "network_timeout_ms"] := by
  unfold entries
  simp only [List.map_append]
  exact (((((names_fieldEntry ..).append (names_fieldEntry ..)).append
    (names_fieldEntry ..)).append (names_fieldEntry ..)).append (names_fieldEntry ..)).append
      (names_fieldEntry ..)

theorem PolicySection.names_entries (part : PolicySection) :
    (part.entries.map Prod.fst).Sublist fieldNames := by
  unfold entries
  simp only [List.map_append]
  exact (((((((names_fieldEntry ..).append (names_fieldEntry ..)).append
    (names_fieldEntry ..)).append (names_fieldEntry ..)).append (names_fieldEntry ..)).append
      (names_fieldEntry ..)).append (names_fieldEntry ..)).append (names_fieldEntry ..)

theorem Properties.names_entries (properties : Properties) :
    properties.entries.map Prod.fst = properties.pairs.map Prod.fst := by
  unfold entries
  rw [List.map_map]
  rfl

/-! ## Lines -/

namespace PoolFile

open Toml

theorem states_writeField {α : Type} (name : String) {write : α → List Char}
    {toValue : α → Value} (field : Option α)
    (written : ∀ value ∈ field, Written (write value) (toValue value)) :
    States (writeField name write field) (assigns (fieldEntry name toValue field)) := by
  cases field with
  | none => exact .nil
  | some value => exact states_assignment name (written value rfl)

theorem assigns_append (first second : List (String × Value)) :
    assigns (first ++ second) = assigns first ++ assigns second :=
  List.map_append

theorem states_writeProperties (properties : Properties) :
    States (writeProperties properties) (assigns properties.entries) := by
  unfold writeProperties Properties.entries
  induction properties.pairs with
  | nil => exact .nil
  | cons pair pairs ih => exact (states_assignment pair.1 (written_text pair.2)).append ih

/-- The statements about opening. -/
def sourceStatements (part : SourceSection) : List Statement :=
  [.beginTable [] "datasource"] ++ assigns part.entries ++
    part.properties.elim [] fun properties =>
      [.beginTable ["datasource"] "properties"] ++ assigns properties.entries

/-- The statements about pooling. -/
def policyStatements (part : PolicySection) : List Statement :=
  [.beginTable [] "pool"] ++ assigns part.entries

theorem states_writeSource {part : SourceSection}
    (fits : ∀ n ∈ part.networkTimeoutMillis, n < 2 ^ 63) :
    States (writeSource part) (sourceStatements part) := by
  have header : States (writeHeader "datasource") [.beginTable [] "datasource"] :=
    states_header ⟨'d', _, rfl, by decide⟩ fun rest => rfl
  have inner : States (writeHeader "datasource.properties")
      [.beginTable ["datasource"] "properties"] :=
    states_header ⟨'d', _, rfl, by decide⟩ fun rest => rfl
  have fields := (((((header.append
    (states_writeField "url" (some part.url) fun text _ => written_text text)).append
    (states_writeField "username" part.username fun text _ => written_text text)).append
    (states_writeField "password" part.password fun text _ => written_text text)).append
    (states_writeField "auto_commit" part.autoCommit fun on _ => written_bool on)).append
    (states_writeField "isolation" part.isolation fun level _ =>
      written_text level.configName)).append
    (states_writeField "network_timeout_ms" part.networkTimeoutMillis fun n listed =>
      written_nat (fits n listed))
  unfold writeSource sourceStatements SourceSection.entries
  simp only [assigns_append, ← List.append_assoc] at fields ⊢
  refine fields.append ?_
  cases part.properties with
  | none => exact .nil
  | some properties =>
    exact (states_blank.append inner).append (states_writeProperties properties)

theorem states_writePolicy {part : PolicySection}
    (fits : ∀ n ∈ part.numbers, n < 2 ^ 63) :
    States (writePolicy part) (policyStatements part) := by
  have header : States (writeHeader "pool") [.beginTable [] "pool"] :=
    states_header ⟨'p', _, rfl, by decide⟩ fun rest => rfl
  have numbered (name : String) (field : Option Nat) (listed : field ∈ [part.maxActive,
      part.maxIdle, part.maxCheckoutMillis, part.timeToWaitMillis, part.tolerance,
      part.pingNotUsedForMillis]) :
      States (writeField name writeNat field) (assigns (fieldEntry name .ofNat field)) :=
    states_writeField name field fun n same =>
      written_nat (fits n (List.mem_filterMap.2 ⟨field, listed, same⟩))
  have fields := (((((((header.append
    (numbered "max_active" part.maxActive (by simp))).append
    (numbered "max_idle" part.maxIdle (by simp))).append
    (numbered "max_checkout_time_ms" part.maxCheckoutMillis (by simp))).append
    (numbered "time_to_wait_ms" part.timeToWaitMillis (by simp))).append
    (numbered "local_bad_connection_tolerance" part.tolerance (by simp))).append
    (states_writeField "ping_enabled" part.pingEnabled fun on _ => written_bool on)).append
    (states_writeField "ping_query" part.pingQuery fun text _ => written_text text)).append
    (numbered "ping_not_used_for_ms" part.pingNotUsedForMillis (by simp))
  unfold writePolicy policyStatements PolicySection.entries
  simp only [assigns_append, ← List.append_assoc] at fields ⊢
  exact fields

/-! ## The tree of a file -/

/-- What is said about opening, as a node of the tree. -/
def sourceNode (part : SourceSection) : Node :=
  .table .header (nodes part.entries ++ part.properties.elim [] fun properties =>
    [("properties", .table .header (nodes properties.entries))])

/-- What is said about pooling, as a node of the tree. -/
def policyNode (part : PolicySection) : Node :=
  .table .header (nodes part.entries)

theorem follow_sourceStatements (part : SourceSection) :
    ∃ here, (sourceStatements part).foldlM Tree.follow {} =
      some ⟨[("datasource", sourceNode part)], here⟩ := by
  have opens : Entries.Opens ["datasource"] fun inner =>
      [] ++ ("datasource", .table .header (id inner)) :: [] :=
    Entries.opens_nil.cons List.not_mem_nil []
  have distinct : (([] : Entries).map Prod.fst ++ part.entries.map Prod.fst).Nodup :=
    part.names_entries.nodup (by decide)
  have fresh : "properties" ∉ (nodes part.entries).map Prod.fst := by
    rw [Entries.names_nodes]
    exact fun listed => absurd (part.names_entries.subset listed) (by decide)
  have begun : [Statement.beginTable [] "datasource"].foldlM Tree.follow {} =
      some ⟨[("datasource", .table .header [])], ["datasource"]⟩ := rfl
  have fields : ([Statement.beginTable [] "datasource"] ++ assigns part.entries).foldlM
      Tree.follow {} = some ⟨[("datasource", .table .header (nodes part.entries))],
        ["datasource"]⟩ := by
    rw [List.foldlM_append, begun]
    exact Tree.follow_assigns opens distinct
  unfold sourceStatements sourceNode
  rw [List.foldlM_append, fields]
  cases part.properties with
  | none =>
    simp only [Option.elim_none, List.append_nil]
    exact ⟨_, rfl⟩
  | some properties =>
    have inside : Entries.Opens ["datasource", "properties"] fun inner =>
        [] ++ ("datasource", .table .header (nodes part.entries ++
          ("properties", .table .header (id inner)) :: [])) :: [] :=
      (Entries.opens_nil.cons fresh []).cons List.not_mem_nil []
    have names : (([] : Entries).map Prod.fst ++ properties.entries.map Prod.fst).Nodup := by
      rw [properties.names_entries]
      exact properties.distinct
    refine ⟨["datasource", "properties"], ?_⟩
    show ([Statement.beginTable ["datasource"] "properties"] ++
      assigns properties.entries).foldlM Tree.follow _ = _
    rw [List.foldlM_append]
    exact (congrArg (Option.bind · _) (Tree.follow_header opens fresh ["datasource"])).trans
      (Tree.follow_assigns inside names)

theorem follow_policyStatements (part : PolicySection) (node : Node) (here : List String) :
    (policyStatements part).foldlM Tree.follow ⟨[("datasource", node)], here⟩ =
      some ⟨[("datasource", node), ("pool", policyNode part)], ["pool"]⟩ := by
  have fresh : "pool" ∉ [("datasource", node)].map Prod.fst := by
    simp
  have opens : Entries.Opens ["pool"] fun inner =>
      [("datasource", node)] ++ ("pool", .table .header (id inner)) :: [] :=
    Entries.opens_nil.cons fresh []
  have distinct : (([] : Entries).map Prod.fst ++ part.entries.map Prod.fst).Nodup :=
    part.names_entries.nodup (by decide)
  unfold policyStatements
  rw [List.foldlM_append]
  exact (congrArg (Option.bind · _) (Tree.follow_header Entries.opens_nil fresh here)).trans
    (Tree.follow_assigns opens distinct)

end PoolFile

/-! ## Fields -/

/-- A field is read as it was written, if its value is. -/
theorem optional_map {α : Type} {read : Value → Option α} {toValue : α → Value} (field : Option α)
    (reads : ∀ value ∈ field, read (toValue value) = some value)
    (present : ∀ value, toValue value ≠ .null) :
    Value.optional read (field.map toValue) = some field := by
  cases field with
  | none => rfl
  | some value =>
    have found := reads value rfl
    rw [Option.map_some]
    cases same : toValue value with
    | null => exact absurd same (present value)
    | _ =>
      rw [same] at found
      exact congrArg (Option.map some) found

theorem word?_ofNat {n : Nat} (fits : n < 2 ^ 63) : Value.word? (.ofNat n) = some n := by
  unfold Value.ofNat Value.word?
  dsimp only
  rw [if_pos ⟨Int.natCast_nonneg n, by
    have size : UInt64.size = 2 ^ 64 := rfl
    omega⟩]
  rfl

theorem textPairs?_entries (pairs : List (String × String)) :
    Value.textPairs? (pairs.map fun pair => (pair.1, .text pair.2)) = some pairs := by
  induction pairs with
  | nil => rfl
  | cons pair pairs ih =>
    show (Value.textPairs? (pairs.map _)).map ((pair.1, pair.2) :: ·) = _
    rw [ih]
    rfl

namespace Properties

theorem insertPair_fresh {name : String} {pairs : List (String × String)}
    (fresh : name ∉ pairs.map Prod.fst) (value : String) :
    insertPair name value pairs = pairs ++ [(name, value)] := by
  induction pairs with
  | nil => rfl
  | cons pair pairs ih =>
    obtain ⟨n, v⟩ := pair
    simp only [List.map_cons, List.mem_cons, not_or] at fresh
    rw [insertPair, if_neg (Ne.symm fresh.1), ih fresh.2]
    rfl

/-- Distinct names are kept in the order in which they are given. -/
theorem pairs_foldl_insert {pairs : List (String × String)} {properties : Properties}
    (distinct : (properties.pairs.map Prod.fst ++ pairs.map Prod.fst).Nodup) :
    (pairs.foldl (fun properties pair => properties.insert pair.1 pair.2) properties).pairs =
      properties.pairs ++ pairs := by
  induction pairs generalizing properties with
  | nil => exact (List.append_nil _).symm
  | cons pair pairs ih =>
    have fresh : pair.1 ∉ properties.pairs.map Prod.fst := fun old =>
      (List.nodup_append.1 distinct).2.2 pair.1 old pair.1 List.mem_cons_self rfl
    have inserted : (properties.insert pair.1 pair.2).pairs = properties.pairs ++ [pair] :=
      insertPair_fresh fresh pair.2
    rw [List.foldl_cons, ih, inserted, List.append_assoc]
    · rfl
    · rw [inserted, List.map_append, List.append_assoc]
      exact distinct

theorem eq_of_pairs {first second : Properties} (same : first.pairs = second.pairs) :
    first = second := by
  cases first
  cases second
  cases same
  rfl

theorem get?_eq_some {properties : Properties} {name value : String} :
    properties.get? name = some value ↔ (name, value) ∈ properties.pairs := by
  unfold get?
  rw [List.lookup_eq_some_iff]
  constructor
  · rintro ⟨before, after, split, -⟩
    rw [split]
    exact List.mem_append_right _ List.mem_cons_self
  · intro listed
    obtain ⟨before, after, split⟩ := List.append_of_mem listed
    refine ⟨before, after, split, fun pair earlier => ?_⟩
    have distinct := properties.distinct
    rw [split, List.map_append] at distinct
    have apart := (List.nodup_append.1 distinct).2.2 pair.1 (List.mem_map_of_mem earlier) name
      List.mem_cons_self
    exact bne_iff_ne.2 (Ne.symm apart)

/-- The order of the names does not matter to what they stand for. -/
theorem get?_eq_of_perm {first second : Properties} (same : first.pairs.Perm second.pairs)
    (name : String) : second.get? name = first.get? name :=
  Option.ext fun value => by rw [get?_eq_some, get?_eq_some, same.mem_iff]

theorem ofList_pairs (properties : Properties) : ofList properties.pairs = properties := by
  apply eq_of_pairs
  exact @pairs_foldl_insert _ empty properties.distinct

end Properties

theorem properties?_entries (properties : Properties) :
    Value.properties? (.table properties.entries) = some properties := by
  show (Value.textPairs? _).map Properties.ofList = _
  unfold Properties.entries
  rw [textPairs?_entries, Option.map_some, properties.ofList_pairs]

/-! ## Records -/

namespace PoolFile

open Toml

/-- The part about opening is read from its node. -/
theorem ofValue?_sourceNode {part : SourceSection}
    (fits : ∀ n ∈ part.networkTimeoutMillis, n < 2 ^ 63) :
    SourceSection.ofValue? Toml.dialect (sourceNode part).toValue = some part := by
  have value : (sourceNode part).toValue = .table (part.entries ++
      fieldEntry "properties" (fun properties => .table properties.entries) part.properties) := by
    unfold sourceNode
    rw [Node.toValue, Entries.toPairs_append, Entries.toPairs_nodes]
    cases part.properties with
    | none => rfl
    | some properties =>
      rw [Option.elim_some, Entries.toPairs, Node.toValue, Entries.toPairs_nodes]
      rfl
  rw [value]
  unfold SourceSection.ofValue? SourceSection.entries
  simp only [Value.record?, Option.bind_eq_bind, Option.bind_some, List.lookup_append,
    lookup_fieldEntry, ↓reduceIte, Option.map_some, String.reduceEq, Option.or_none,
    Option.none_or, Option.or_self]
  have texts (field : Option String) :
      Value.optional Value.text? (field.map .text) = some field :=
    optional_map field (fun _ _ => rfl) fun _ => nofun
  have properties : Value.optional Value.properties?
      (part.properties.map fun properties => .table properties.entries) = some part.properties :=
    optional_map _ (fun properties _ => properties?_entries properties) fun _ => nofun
  have autoCommit : Value.optional Value.bool? (part.autoCommit.map .bool) =
      some part.autoCommit :=
    optional_map _ (fun _ _ => rfl) fun _ => nofun
  have isolation : Value.optional (Value.isolation? dialect)
      (part.isolation.map fun level => .text level.configName) = some part.isolation :=
    optional_map _ (fun level _ => Isolation.ofConfigName?_configName level) fun _ => nofun
  have timeout : Value.optional Value.word? (part.networkTimeoutMillis.map .ofNat) =
      some part.networkTimeoutMillis :=
    optional_map _ (fun n listed => word?_ofNat (fits n listed)) fun _ => nofun
  rw [texts, texts, properties, autoCommit, isolation, timeout]
  rfl

/-- The part about pooling is read from its node. -/
theorem ofValue?_policyNode {part : PolicySection} (fits : ∀ n ∈ part.numbers, n < 2 ^ 63) :
    PolicySection.ofValue? Toml.dialect (policyNode part).toValue = some part := by
  have value : (policyNode part).toValue = .table part.entries := by
    unfold policyNode
    rw [Node.toValue, Entries.toPairs_nodes]
  have numbered (field : Option Nat) (listed : field ∈ [part.maxActive, part.maxIdle,
      part.maxCheckoutMillis, part.timeToWaitMillis, part.tolerance,
      part.pingNotUsedForMillis]) :
      Value.optional Value.word? (field.map .ofNat) = some field :=
    optional_map field (fun n same =>
      word?_ofNat (fits n (List.mem_filterMap.2 ⟨field, listed, same⟩))) fun _ => nofun
  have enabled : Value.optional Value.bool? (part.pingEnabled.map .bool) =
      some part.pingEnabled :=
    optional_map _ (fun _ _ => rfl) fun _ => nofun
  have query : Value.optional Value.text? (part.pingQuery.map .text) = some part.pingQuery :=
    optional_map _ (fun _ _ => rfl) fun _ => nofun
  rw [value]
  unfold PolicySection.ofValue? PolicySection.entries
  simp only [Value.record?, Option.bind_eq_bind, Option.bind_some, List.lookup_append,
    lookup_fieldEntry, ↓reduceIte, String.reduceEq, Option.or_none, Option.none_or,
    Option.or_self]
  rw [numbered part.maxActive (by simp), numbered part.maxIdle (by simp),
    numbered part.maxCheckoutMillis (by simp), numbered part.timeToWaitMillis (by simp),
    numbered part.tolerance (by simp), enabled, query,
    numbered part.pingNotUsedForMillis (by simp)]
  rfl

/-! ## Files -/

theorem fits_source {file : PoolFile} (fits : ∀ n ∈ file.numbers, n < 2 ^ 63) :
    ∀ n ∈ file.source.networkTimeoutMillis, n < 2 ^ 63 := fun n same =>
  fits n (List.mem_filterMap.2 ⟨_, List.mem_cons_self, same⟩)

theorem fits_policy {file : PoolFile} (fits : ∀ n ∈ file.numbers, n < 2 ^ 63) :
    ∀ part ∈ file.policy, ∀ n ∈ part.numbers, n < 2 ^ 63 := by
  intro part same n listed
  apply fits n
  unfold numbers
  rw [same]
  obtain ⟨field, inside, number⟩ := List.mem_filterMap.1 listed
  exact List.mem_filterMap.2 ⟨field, List.mem_cons_of_mem _ inside, number⟩

/-- The named values of a whole file. -/
def entries (file : PoolFile) : List (String × Value) :=
  fieldEntry "datasource" (fun part => (sourceNode part).toValue) (some file.source) ++
    fieldEntry "pool" (fun part => (policyNode part).toValue) file.policy

/-- The text of a file holds what the file says. -/
theorem exists_document {file : PoolFile} (fits : ∀ n ∈ file.numbers, n < 2 ^ 63) :
    ∃ text, file.render = some text ∧ document? text = some (.table file.entries) := by
  have source := states_writeSource (fits_source fits)
  obtain ⟨here, begun⟩ := follow_sourceStatements file.source
  have small : file.numbers.all (· < Nat.pow 2 63) = true :=
    List.all_eq_true.2 fun n listed => decide_eq_true (fits n listed)
  unfold render entries
  rw [if_pos small]
  refine ⟨_, rfl, ?_⟩
  unfold document?
  rw [String.toList_ofList]
  cases same : file.policy with
  | none =>
    have states := source.statements?
    rw [List.append_nil]
    show (statements? (writeSource file.source)).bind _ = _
    rw [states]
    show ((sourceStatements file.source).foldlM Tree.follow {}).map _ = _
    rw [begun]
    rfl
  | some part =>
    have states := (source.append (states_blank.append
      (states_writePolicy (fits_policy fits part same)))).statements?
    show (statements? (writeSource file.source ++ (['\n'] ++ writePolicy part))).bind _ = _
    rw [states]
    show ((sourceStatements file.source ++ policyStatements part).foldlM Tree.follow {}).map _ = _
    rw [List.foldlM_append, begun]
    exact congrArg (Option.map _) (follow_policyStatements part _ here)

/-- What is written of a file is read back, with the properties in the same order. -/
theorem parse_of_render {file : PoolFile} (flawless : file.flaw? = none)
    (fits : ∀ n ∈ file.numbers, n < 2 ^ 63) :
    ∃ text, file.render = some text ∧ parse text = .ok file := by
  obtain ⟨text, rendered, document⟩ := exists_document fits
  have policy : Value.optional (PolicySection.ofValue? Toml.dialect)
      (file.policy.map fun part => (policyNode part).toValue) = some file.policy :=
    optional_map _ (fun part same => ofValue?_policyNode (fits_policy fits part same)) fun _ =>
      nofun
  have read : ofValue? Toml.dialect (.table file.entries) = some file := by
    unfold ofValue? entries
    simp only [Value.record?, Option.bind_eq_bind, Option.bind_some, List.lookup_append,
      lookup_fieldEntry, ↓reduceIte, Option.map_some, String.reduceEq, Option.or_none,
      Option.none_or]
    rw [policy]
    show (SourceSection.ofValue? Toml.dialect (sourceNode file.source).toValue).bind _ = _
    rw [ofValue?_sourceNode (fits_source fits)]
    rfl
  refine ⟨text, rendered, ?_⟩
  unfold parse checked
  rw [document, Option.bind_some, read]
  dsimp only
  rw [flawless]

/-! ## Any order of properties -/

/-- The other file is the same, but its properties may be in another order. -/
def Reorders (file other : PoolFile) : Prop :=
  ∃ properties : Option Properties,
    Option.Rel (fun given asked : Properties => given.pairs.Perm asked.pairs)
      file.source.properties properties ∧
    other = { file with source := { file.source with properties := properties } }

/-- The text that a name stands for among the properties of a file. -/
def property? (file : PoolFile) (name : String) : Option String :=
  file.source.properties.bind (·.get? name)

theorem Reorders.property?_eq {file other : PoolFile} (reordered : file.Reorders other)
    (name : String) : other.property? name = file.property? name := by
  obtain ⟨properties, same, rfl⟩ := reordered
  unfold property?
  dsimp only
  generalize file.source.properties = given at same
  cases same with
  | none => rfl
  | some same => exact Properties.get?_eq_of_perm same name

/-- A file can be written, and what is written is read back as that file. -/
structure RoundTrips (file : PoolFile) : Prop where
  /-- With the properties in the order of the file, the very same file comes back. -/
  same : ∃ text, file.render = some text ∧ parse text = .ok file
  /-- With the properties in any other order they come back in that order, and each name
  stands for the same text. -/
  reordered : ∀ written, file.Reorders written →
    ∃ text, written.render = some text ∧ parse text = .ok written ∧
      ∀ name, written.property? name = file.property? name

/-- Every file without a flaw is read back as it was written, if its numbers fit into signed
words. -/
theorem roundTrips_of_flawless {file : PoolFile} (flawless : file.flaw? = none)
    (fits : ∀ n ∈ file.numbers, n ≤ 2 ^ 63 - 1) : RoundTrips file := by
  have small : ∀ n ∈ file.numbers, n < 2 ^ 63 := fun n listed => by
    have := fits n listed
    omega
  refine ⟨parse_of_render flawless small, fun written reordered => ?_⟩
  have property := reordered.property?_eq
  have again : written.flaw? = none ∧ ∀ n ∈ written.numbers, n < 2 ^ 63 := by
    obtain ⟨properties, -, rfl⟩ := reordered
    exact ⟨flawless, small⟩
  obtain ⟨text, rendered, read⟩ := parse_of_render again.1 again.2
  exact ⟨text, rendered, read, property⟩

/-- A file with texts that need each of the notations, in which a part is there but says
nothing. -/
def awkwardFile : PoolFile where
  source :=
    { url := "db\\main"
      username := some ""
      password := some "'\"\"\"\\\n\x07\""
      properties := some (.ofList [("", "\n''"), ("a b", "'\""), ("a\"'\n", "\t\x7f")])
      networkTimeoutMillis := some (2 ^ 63 - 1) }
  policy := some {}

theorem roundTrips_awkward : awkwardFile.flaw? = none ∧
    (∀ n ∈ awkwardFile.numbers, n ≤ 2 ^ 63 - 1) ∧ RoundTrips awkwardFile :=
  have flawless : awkwardFile.flaw? = none := by decide +kernel
  have fits : ∀ n ∈ awkwardFile.numbers, n ≤ 2 ^ 63 - 1 := by decide +kernel
  ⟨flawless, fits, roundTrips_of_flawless flawless fits⟩

end PoolFile

end ConnectionPooling
