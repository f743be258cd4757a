/-
# Driver properties

Named texts that are handed to the database driver as they are. A name occurs at
most once, and the order in which names were first given is kept.
-/

namespace ConnectionPooling

/-- A finite map from names to texts. -/
structure Properties where
  /-- The names with their texts. -/
  pairs : List (String × String) := []
  /-- No name occurs twice. -/
  distinct : (pairs.map Prod.fst).Nodup := by exact List.nodup_nil
  deriving DecidableEq

namespace Properties

/-- No properties at all. -/
def empty : Properties := {}

/-- The pairs in which `name` stands for `value`: its old text is replaced where
it stands, or the pair comes last. -/
def insertPair (name value : String) : List (String × String) → List (String × String)
  | [] => [(name, value)]
  | (n, v) :: rest =>
      if n = name then (name, value) :: rest else (n, v) :: insertPair name value rest

/-- Inserting adds at most the name itself to the names. -/
theorem mem_names_insertPair {name value x : String} {pairs : List (String × String)} :
    x ∈ (insertPair name value pairs).map Prod.fst → x = name ∨ x ∈ pairs.map Prod.fst := by
  induction pairs with
  | nil => simp [insertPair]
  | cons head rest ih =>
    obtain ⟨n, v⟩ := head
    by_cases h : n = name
    · subst h; simp [insertPair]
    · simp only [insertPair, if_neg h, List.map_cons, List.mem_cons]
      rintro (rfl | hx)
      · exact .inr (.inl rfl)
      · rcases ih hx with rfl | hx
        · exact .inl rfl
        · exact .inr (.inr hx)

/-- Inserting keeps the names distinct. -/
theorem nodup_names_insertPair {name value : String} {pairs : List (String × String)}
    (h : (pairs.map Prod.fst).Nodup) :
    ((insertPair name value pairs).map Prod.fst).Nodup := by
  induction pairs with
  | nil => simp [insertPair]
  | cons head rest ih =>
    obtain ⟨n, v⟩ := head
    simp only [List.map_cons, List.nodup_cons] at h
    by_cases hn : n = name
    · subst hn; simpa [insertPair] using h
    · simp only [insertPair, if_neg hn, List.map_cons, List.nodup_cons]
      refine ⟨fun hx => ?_, ih h.2⟩
      rcases mem_names_insertPair hx with rfl | hx
      · exact hn rfl
      · exact h.1 hx

/-- The properties in which `name` stands for `value` and all else is as before. -/
def insert (properties : Properties) (name value : String) : Properties where
  pairs := insertPair name value properties.pairs
  distinct := nodup_names_insertPair properties.distinct

/-- The properties given by a list of pairs; of two pairs with one name the
later one counts. -/
def ofList (pairs : List (String × String)) : Properties :=
  pairs.foldl (fun properties pair => properties.insert pair.1 pair.2) empty

/-- The text that a name stands for. -/
def get? (properties : Properties) (name : String) : Option String :=
  properties.pairs.lookup name

end Properties

end ConnectionPooling
