import LtiLaunch.Files.Tree
import Mathlib.Data.List.Nodup

/-!
# Files of a tree

An entry of a directory is reached by its name behind the directory's path. Removing a file takes
away its node alone: all directories stay, so whatever led to a directory leads there still.
-/

namespace LtiLaunch

namespace Text

theorem splitOn_of_not_mem {sep : Char} {piece : List Char} (absent : sep ∉ piece) :
    splitOn sep piece = [piece] := by
  induction piece with
  | nil => rfl
  | cons c piece ih =>
    obtain ⟨other, absent⟩ := not_or.mp (mt List.mem_cons.mpr absent)
    rw [splitOn, if_neg (Ne.symm other), ih absent]

theorem splitOn_ne_nil (sep : Char) (text : List Char) : splitOn sep text ≠ [] := by
  induction text with
  | nil => simp [splitOn]
  | cons c text ih =>
    rw [splitOn]
    split
    · exact List.cons_ne_nil _ _
    · split <;> exact List.cons_ne_nil _ _

theorem splitOn_append_cons (sep : Char) (before rest : List Char) :
    splitOn sep (before ++ sep :: rest) = splitOn sep before ++ splitOn sep rest := by
  induction before with
  | nil => simp [splitOn]
  | cons c before ih =>
    rw [List.cons_append, splitOn, splitOn]
    split
    · rw [ih, List.cons_append]
    · rw [ih]
      cases pieces : splitOn sep before with
      | nil => exact absurd pieces (splitOn_ne_nil sep before)
      | cons piece pieces => rfl

end Text

namespace Path

/-- What an entry of a directory can be called. -/
structure IsName (name : String) : Prop where
  busy : isIdle name = false
  ne_parent : name ≠ ".."
  whole : '/' ∉ name.toList

variable {name : String}

theorem isAbsolute_eq_false (named : IsName name) : isAbsolute name = false := by
  rw [isAbsolute, beq_eq_false_iff_ne]
  exact fun head => named.whole (List.mem_of_head? head)

theorem pieces_eq_append {base : String} {before after : List Char}
    (h : base.toList = before ++ '/' :: after) :
    pieces base = (Text.splitOn '/' before).map String.ofList ++
      (Text.splitOn '/' after).map String.ofList := by
  rw [pieces, h, Text.splitOn_append_cons, List.map_append]

theorem isAbsolute_append {base : String} (nonempty : base ≠ "") (rest : String) :
    isAbsolute (base ++ rest) = isAbsolute base := by
  obtain ⟨c, cs, h⟩ := List.exists_cons_of_ne_nil (mt String.toList_eq_nil_iff.mp nonempty)
  simp [isAbsolute, h]

/-- A name is joined to a path by putting it behind, with a slash before it or without. -/
theorem exists_join_eq_append (base : String) (named : IsName name) :
    ∃ rest, join base name = base ++ rest := by
  rw [join, isAbsolute_eq_false named, if_neg Bool.false_ne_true]
  split
  · exact ⟨name, rfl⟩
  · exact ⟨"/" ++ name, String.append_assoc⟩

/-- A name joined to a path is its last piece, in the place of an empty one. -/
theorem pieces_join {base : String} (nonempty : base ≠ "") (named : IsName name) :
    pieces (join base name) = pieces base ++ [name] ∨
      ∃ ps, pieces base = ps ++ [""] ∧ pieces (join base name) = ps ++ [name] := by
  have single : (Text.splitOn '/' name.toList).map String.ofList = [name] := by
    rw [Text.splitOn_of_not_mem named.whole]
    simp
  rw [join, isAbsolute_eq_false named]
  by_cases slash : base.toList.getLast? = some '/'
  · obtain ⟨before, h⟩ := List.getLast?_eq_some_iff.mp slash
    refine .inr ⟨(Text.splitOn '/' before).map String.ofList, ?_, ?_⟩
    · rw [pieces_eq_append h]
      rfl
    · have text : (base ++ name).toList = before ++ '/' :: name.toList := by simp [h]
      simp [slash, pieces_eq_append text, single]
  · have text : (base ++ "/" ++ name).toList = base.toList ++ '/' :: name.toList := by simp
    refine .inl ?_
    simp [slash, nonempty, pieces_eq_append text, single]
    rfl

end Path

namespace FileTree

/-- Every node has a place of its own, and names on the way to it that a directory can have. -/
structure Sound (t : FileTree) : Prop where
  nodup : (t.nodes.map Prod.fst).Nodup
  named : ∀ n ∈ t.nodes, ∀ name ∈ n.1, Path.IsName name

variable {t : FileTree} {place other : List String} {ps : List String} {name directory : String}
  {content : List UInt8} {modified : Instant}

/-! ### Where a path leads -/

/-- The place that one piece of a path leads to. -/
def next? (t : FileTree) (place : List String) (piece : String) : Option (List String) :=
  if !t.isDirectory place then none
  else if Path.isIdle piece then some place
  else if piece = ".." then if place = [] then none else some place.dropLast
  else if (t.node? (place ++ [piece])).isSome then some (place ++ [piece])
  else none

theorem follow?_cons (t : FileTree) (place : List String) (piece : String) (ps : List String) :
    t.follow? place (piece :: ps) = (t.next? place piece).bind fun p => t.follow? p ps := by
  rw [follow?, next?]
  repeat' split
  all_goals rfl

theorem follow?_append (t : FileTree) (place ps qs : List String) :
    t.follow? place (ps ++ qs) = (t.follow? place ps).bind fun p => t.follow? p qs := by
  induction ps generalizing place with
  | nil => rfl
  | cons piece ps ih => simp only [List.cons_append, follow?_cons, ih, Option.bind_assoc]

theorem next?_name (named : Path.IsName name) (isDir : t.isDirectory place = true)
    (present : (t.node? (place ++ [name])).isSome) :
    t.next? place name = some (place ++ [name]) := by
  simp [next?, isDir, named.busy, named.ne_parent, present]

/-- A piece leads on from a directory only. -/
theorem isDirectory_of_next? {piece : String} (led : t.next? place piece = some other) :
    t.isDirectory place = true := by
  by_contra notDir
  simp [next?, notDir] at led

/-- An empty piece at the end of a path only asks for a directory. -/
theorem follow?_of_append_empty (led : t.follow? place (ps ++ [""]) = some other) :
    t.follow? place ps = some other := by
  rw [follow?_append, Option.bind_eq_some_iff] at led
  obtain ⟨p, here, last⟩ := led
  rw [follow?_cons, Option.bind_eq_some_iff] at last
  obtain ⟨q, step, last⟩ := last
  have idle : Path.isIdle "" = true := rfl
  have stays : t.next? p "" = some p := by simp [next?, isDirectory_of_next? step, idle]
  rw [here, ← stays, step, ← last, follow?]

theorem place?_eq_some_iff : t.place? directory = some place ↔
    directory ≠ "" ∧ Path.isAbsolute directory = false ∧
      t.follow? [] (Path.pieces directory) = some place := by
  simp [place?, and_assoc]

theorem place?_join (found : t.place? directory = some place) (isDir : t.isDirectory place = true)
    (named : Path.IsName name) (present : (t.node? (place ++ [name])).isSome) :
    t.place? (Path.join directory name) = some (place ++ [name]) := by
  obtain ⟨nonempty, relative, led⟩ := place?_eq_some_iff.mp found
  have last : t.follow? place [name] = some (place ++ [name]) := by
    rw [follow?_cons, next?_name named isDir present]
    rfl
  refine place?_eq_some_iff.mpr ⟨?_, ?_, ?_⟩
  · obtain ⟨rest, h⟩ := Path.exists_join_eq_append directory named
    simp [h, nonempty]
  · obtain ⟨rest, h⟩ := Path.exists_join_eq_append directory named
    rw [h, Path.isAbsolute_append nonempty, relative]
  · rcases Path.pieces_join nonempty named with h | ⟨ps, hbase, h⟩
    · rw [h, follow?_append, led, Option.bind_some, last]
    · rw [hbase] at led
      rw [h, follow?_append, follow?_of_append_empty led, Option.bind_some, last]

theorem node?_of_ne_nil (ne : place ≠ []) :
    t.node? place = (t.nodes.find? (·.1 == place)).map (·.2.1) := by
  obtain ⟨first, rest, rfl⟩ := List.exists_cons_of_ne_nil ne
  rfl

theorem node?_eq_some_iff (sound : t.Sound) (ne : place ≠ []) {node : FileNode} :
    t.node? place = some node ↔ ∃ modified, (place, node, modified) ∈ t.nodes := by
  rw [node?_of_ne_nil ne]
  constructor
  · intro h
    obtain ⟨⟨p, node, modified⟩, found, rfl⟩ := Option.map_eq_some_iff.mp h
    have here : p = place := by simpa using List.find?_some found
    exact ⟨modified, here ▸ List.mem_of_find?_eq_some found⟩
  · rintro ⟨modified, mem⟩
    have present : (t.nodes.find? (·.1 == place)).isSome :=
      List.find?_isSome.mpr ⟨_, mem, beq_self_eq_true place⟩
    obtain ⟨n, found⟩ := Option.isSome_iff_exists.mp present
    have here : n.1 = place := by simpa using List.find?_some found
    have same := List.inj_on_of_nodup_map sound.nodup (List.mem_of_find?_eq_some found) mem here
    rw [found, same]
    rfl

theorem node?_of_isDirectory (isDir : t.isDirectory place = true) :
    t.node? place = some .directory := by
  simpa [isDirectory] using isDir

/-! ### Fewer files -/

/-- The tree with some of its nodes only. -/
def only (t : FileTree) (kept : List String × FileNode × Instant → Bool) : FileTree :=
  ⟨t.nodes.filter kept⟩

variable {kept more : List String × FileNode × Instant → Bool}

theorem only_only (t : FileTree) (kept more : List String × FileNode × Instant → Bool) :
    (t.only kept).only more = t.only fun n => more n && kept n :=
  congrArg FileTree.mk List.filter_filter

theorem only_congr (same : ∀ n ∈ t.nodes, kept n = more n) : t.only kept = t.only more :=
  congrArg FileTree.mk (List.filter_congr same)

theorem sound_only (sound : t.Sound) (kept : List String × FileNode × Instant → Bool) :
    (t.only kept).Sound where
  nodup := sound.nodup.sublist (List.filter_sublist.map _)
  named n mem := sound.named n (List.mem_of_mem_filter mem)

theorem mem_places_only_iff (sound : t.Sound) {n : List String × FileNode × Instant}
    (mem : n ∈ t.nodes) : n.1 ∈ (t.only kept).nodes.map Prod.fst ↔ kept n = true := by
  constructor
  · intro h
    obtain ⟨m, chosen, same⟩ := List.mem_map.mp h
    obtain ⟨inNodes, holds⟩ := List.mem_filter.mp chosen
    exact List.inj_on_of_nodup_map sound.nodup inNodes mem same ▸ holds
  · intro holds
    exact List.mem_map_of_mem (List.mem_filter.mpr ⟨mem, holds⟩)

/-- All directories are among the nodes that are kept. -/
def KeepsDirectories (t : FileTree) (kept : List String × FileNode × Instant → Bool) : Prop :=
  ∀ n ∈ t.nodes, n.2.1 = .directory → kept n = true

theorem isDirectory_only (sound : t.Sound) (keeps : t.KeepsDirectories kept)
    (isDir : t.isDirectory place = true) : (t.only kept).isDirectory place = true := by
  by_cases root : place = []
  · subst root
    rfl
  obtain ⟨modified, mem⟩ := (node?_eq_some_iff sound root).mp (node?_of_isDirectory isDir)
  have here : (t.only kept).node? place = some .directory :=
    (node?_eq_some_iff (sound_only sound kept) root).mpr
      ⟨modified, List.mem_filter.mpr ⟨mem, keeps _ mem rfl⟩⟩
  simp [isDirectory, here]

theorem next?_only (sound : t.Sound) (keeps : t.KeepsDirectories kept) {piece : String}
    (led : t.next? place piece = some other) (isDir : t.isDirectory other = true) :
    (t.only kept).next? place piece = some other := by
  have before := isDirectory_of_next? led
  have after := isDirectory_only sound keeps before
  have still : other = place ++ [piece] →
      ((t.only kept).node? (place ++ [piece])).isSome = true := by
    rintro rfl
    rw [node?_of_isDirectory (isDirectory_only sound keeps isDir)]
    rfl
  simp only [next?, before, after, Bool.not_true, Bool.false_eq_true, if_false] at led ⊢
  grind

/-- What leads to a directory still leads there. -/
theorem follow?_only (sound : t.Sound) (keeps : t.KeepsDirectories kept)
    (led : t.follow? place ps = some other) (isDir : t.isDirectory other = true) :
    (t.only kept).follow? place ps = some other := by
  induction ps generalizing place with
  | nil => exact led
  | cons piece ps ih =>
    rw [follow?_cons, Option.bind_eq_some_iff] at led
    obtain ⟨p, step, rest⟩ := led
    have through : t.isDirectory p = true := by
      cases ps with
      | nil =>
        cases rest
        exact isDir
      | cons piece ps =>
        rw [follow?_cons, Option.bind_eq_some_iff] at rest
        obtain ⟨q, step, -⟩ := rest
        exact isDirectory_of_next? step
    rw [follow?_cons, next?_only sound keeps step through, Option.bind_some, ih rest]

theorem place?_only (sound : t.Sound) (keeps : t.KeepsDirectories kept)
    (found : t.place? directory = some place) (isDir : t.isDirectory place = true) :
    (t.only kept).place? directory = some place := by
  obtain ⟨nonempty, relative, led⟩ := place?_eq_some_iff.mp found
  exact place?_eq_some_iff.mpr ⟨nonempty, relative, follow?_only sound keeps led isDir⟩

theorem keepsDirectories_of_isFile (sound : t.Sound)
    (mem : (place, .file content, modified) ∈ t.nodes) :
    t.KeepsDirectories (·.1 != place) := by
  rintro n inNodes isDir
  rw [bne_iff_ne]
  intro here
  cases List.inj_on_of_nodup_map sound.nodup inNodes mem here
  cases isDir

/-- A file of a directory is removed by its name. -/
theorem remove_join (sound : t.Sound) (found : t.place? directory = some place)
    (isDir : t.isDirectory place = true)
    (mem : (place ++ [name], .file content, modified) ∈ t.nodes) :
    t.remove (Path.join directory name) = (t.only (·.1 != place ++ [name]), true) := by
  have isFile : t.node? (place ++ [name]) = some (.file content) :=
    (node?_eq_some_iff sound (by simp)).mpr ⟨modified, mem⟩
  have named : Path.IsName name := sound.named _ mem name (by simp)
  rw [remove, place?_join found isDir named (by simp [isFile])]
  simp [isFile, only]

/-! ### Entries of a directory -/

/-- A node as an entry of the directory it is in. -/
def entryOf (n : List String × FileNode × Instant) : DirectoryEntry :=
  ⟨n.1.getLast?.getD "", n.2.1 != .directory, n.2.2⟩

theorem entries_eq (found : t.place? directory = some place) (isDir : t.isDirectory place = true) :
    t.entries directory = some ((t.nodes.filter (isEntryOf place)).map entryOf) := by
  simp only [entries, found, Option.bind_eq_bind, Option.bind_some, isDir, if_true]
  rfl

theorem isEntryOf_iff {n : List String × FileNode × Instant} :
    isEntryOf place n = true ↔ n.1 = place ++ [(entryOf n).name] := by
  obtain ⟨p, node, modified⟩ := n
  rcases List.eq_nil_or_concat p with rfl | ⟨front, last, rfl⟩
  · simp [isEntryOf]
  · simp [isEntryOf, entryOf]

end FileTree

end LtiLaunch
