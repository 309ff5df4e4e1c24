import LineShell.Proofs.Path

/-!
# Normal form, as it is written

A path leads through names from the root (`Path.Normal`) exactly if nothing in its text could be left out (`Path.Tidy`): it
starts with a slash, and no `.`, no `..` and nothing empty stands behind one.

- `Path.tidy_iff_normal`: the two ways to say it;
- `Path.absolute_tidy`: every path is made tidy, a tidy path is left alone, and a path from the root means the same
  wherever it is seen from;
- `Path.absolute_composes`: a path seen from the place of another means what it means written behind the other;
- `Path.absolute_parts`: a path that was made absolute is taken apart into its names, and into its parent and its last
  name, and each way it is put together again.
-/

namespace LineShell.Path

/-- What is written behind each slash up to the next one, empty pieces too. -/
def pieces (path : String) : List String :=
  (path.toList.splitOn '/').tail.map String.ofList

/-- The path starts with a slash and, unless that is all, has no empty, `.` or `..` piece and no slash at its end. -/
structure Tidy (path : String) : Prop where
  rooted : isRooted path = true
  pieces : path ≠ "/" → ∀ piece ∈ pieces path, piece ≠ "" ∧ piece ≠ "." ∧ piece ≠ ".."
  last : path ≠ "/" → path.toList.getLast? ≠ some '/'

instance (path : String) : Decidable (Tidy path) :=
  decidable_of_iff (isRooted path = true ∧
      (path ≠ "/" → ∀ piece ∈ pieces path, piece ≠ "" ∧ piece ≠ "." ∧ piece ≠ "..") ∧
      (path ≠ "/" → path.toList.getLast? ≠ some '/'))
    ⟨fun ⟨rooted, pieces, last⟩ => ⟨rooted, pieces, last⟩, fun ⟨rooted, pieces, last⟩ => ⟨rooted, pieces, last⟩⟩

/-! ## The text of names -/

/-- A way of names is written with a slash between nothing and its first name, and between its names. -/
theorem toList_join_names : ∀ (name : String) (names : List String),
    (String.join ((name :: names).map ("/" ++ ·))).toList =
      '/' :: ['/'].intercalate ((name :: names).map String.toList)
  | name, [] => by simp
  | name, next :: names => by
    have hrest := toList_join_names next names
    rw [List.map_cons, String.join_cons, String.toList_append, hrest]
    simp

theorem splitOn_ofNames {names : List String} (h : ∀ name ∈ names, IsName name) (hne : names ≠ []) :
    (ofNames names).toList.splitOn '/' = [] :: names.map String.toList := by
  obtain ⟨name, rest, rfl⟩ := List.exists_cons_of_ne_nil hne
  rw [ofNames_of_ne_nil hne, toList_join_names, List.splitOn_cons_eq_if_modifyHead, if_pos (beq_self_eq_true _),
    List.splitOn_intercalate '/' _ (by simp)]
  simpa using fun other hother => (h other hother).no_slash

/-- Names stand behind the slashes. -/
theorem pieces_ofNames {names : List String} (h : ∀ name ∈ names, IsName name) (hne : names ≠ []) :
    pieces (ofNames names) = names := by
  rw [pieces, splitOn_ofNames h hne, List.tail_cons, List.map_map]
  simp

/-- A path that starts with a slash is written through its pieces. -/
theorem ofNames_pieces {path : String} (h : isRooted path = true) : pieces path ≠ [] ∧ ofNames (pieces path) = path := by
  obtain ⟨rest, hpath⟩ : ∃ rest, path.toList = '/' :: rest := by
    simpa [isRooted, List.head?_eq_some_iff] using h
  have hsplit : path.toList.splitOn '/' = [] :: rest.splitOn '/' := by
    rw [hpath, List.splitOn_cons_eq_if_modifyHead, if_pos (beq_self_eq_true _)]
  obtain ⟨first, more, hmore⟩ := List.exists_cons_of_ne_nil (List.splitOn_ne_nil '/' rest)
  have hpieces : pieces path = String.ofList first :: more.map String.ofList := by
    rw [pieces, hsplit, hmore]
    rfl
  have hne : pieces path ≠ [] := by simp [hpieces]
  refine ⟨hne, String.toList_inj.1 ?_⟩
  have htext : ['/'].intercalate (rest.splitOn '/') = rest := List.intercalate_splitOn '/'
  rw [hmore] at htext
  rw [ofNames_of_ne_nil hne, hpieces, toList_join_names, hpath, ← htext]
  simp

/-- A way of names does not end in a slash. -/
theorem getLast?_ofNames {names : List String} (h : ∀ name ∈ names, IsName name) (hne : names ≠ []) :
    (ofNames names).toList.getLast? ≠ some '/' := by
  obtain ⟨front, name, rfl⟩ := (List.eq_nil_or_concat names).resolve_left hne
  have hname : IsName name := h name (by simp)
  have hchars : name.toList ≠ [] := by simpa using hname.ne_empty
  rw [List.concat_eq_append, ofNames_snoc]
  simp only [String.toList_append, List.getLast?_append, List.getLast?_eq_some_getLast hchars, Option.some_or]
  intro hlast
  exact hname.no_slash (Option.some.inj hlast ▸ List.getLast_mem hchars)

/-- **Normal form is told from the text**: nothing in it could be left out. -/
theorem tidy_iff_normal {path : String} : Tidy path ↔ Normal path := by
  refine ⟨fun h => ?_, ?_⟩
  · by_cases hroot : path = "/"
    · exact ⟨[], by simp, hroot⟩
    · refine ⟨pieces path, fun name hname => ?_, (ofNames_pieces h.rooted).2.symm⟩
      obtain ⟨hempty, hdot, hup⟩ := h.pieces hroot name hname
      obtain ⟨piece, hpiece, rfl⟩ := List.mem_map.1 hname
      refine ⟨hempty, ?_, hdot, hup⟩
      rw [String.toList_ofList]
      exact Text.not_mem_of_mem_splitOn (List.mem_of_mem_tail hpiece)
  · rintro ⟨names, hnames, rfl⟩
    have hne (hroot : ofNames names ≠ "/") : names ≠ [] := by
      rintro rfl
      exact hroot rfl
    refine ⟨isRooted_ofNames names, fun hroot piece hpiece => ?_, fun hroot => getLast?_ofNames hnames (hne hroot)⟩
    rw [pieces_ofNames hnames (hne hroot)] at hpiece
    exact ⟨(hnames piece hpiece).ne_empty, (hnames piece hpiece).ne_dot, (hnames piece hpiece).ne_up⟩

example : Tidy "/a/..b" ∧ ¬Tidy "/a//b" ∧ ¬Tidy "/a/../b" ∧ ¬Tidy "/a/" := by decide +kernel

/-! ## Paths made absolute -/

/-- A path from the root means the same wherever it is seen from. -/
theorem absolute_of_isRooted {path : String} (h : isRooted path = true) (cwd cwd' : String) :
    absolute cwd path = absolute cwd' path := by
  simp only [absolute, resolve, h, ↓reduceIte]

/-- **Paths made absolute are tidy**, whatever they are seen from, and tidy paths are left alone, so that a path that was
made absolute means itself everywhere. Where a path starts with a slash, it does not matter what it is seen from. -/
theorem absolute_tidy :
    (∀ cwd path, Tidy (absolute cwd path)) ∧
    (∀ path, Tidy path → ∀ cwd, absolute cwd path = path) ∧
    (∀ cwd' cwd path, absolute cwd' (absolute cwd path) = absolute cwd path) ∧
    ∀ path, isRooted path = true → ∀ cwd cwd', absolute cwd path = absolute cwd' path :=
  ⟨fun cwd path => tidy_iff_normal.2 (absolute_normal cwd path),
    fun _ htidy cwd => (tidy_iff_normal.1 htidy).absolute_eq cwd,
    fun cwd' cwd path => (absolute_normal cwd path).absolute_eq cwd',
    fun _ hrooted cwd cwd' => absolute_of_isRooted hrooted cwd cwd'⟩

/-- From a directory that is itself no tidy path, far above the root and down again. -/
theorem absolute_tidy_climbing :
    absolute "a/./b" "../../../c//d/." = "/c/d" ∧ Tidy "/c/d" ∧ absolute "x/.." "/c/d" = "/c/d" ∧
      isRooted "/..//c/./d/" = true ∧ absolute "" "/..//c/./d/" = absolute "/a/b" "/..//c/./d/" := by
  have hvalue : absolute "a/./b" "../../../c//d/." = "/c/d" := by decide +kernel
  have hrooted : isRooted "/..//c/./d/" = true := by decide +kernel
  obtain ⟨htidy, hfixed, -, hmoved⟩ := absolute_tidy
  have hplace : Tidy "/c/d" := hvalue ▸ htidy "a/./b" "../../../c//d/."
  exact ⟨hvalue, hplace, hfixed "/c/d" hplace "x/..", hrooted, hmoved _ hrooted "" "/a/b"⟩

/-- **Seeing a path from the place of another** is seeing it written behind the other, from wherever that one is seen.
Where the first path is empty its place is the directory itself, and where the second one starts at the root the first one
does not matter. -/
theorem absolute_composes (cwd path next : String) :
    (path ≠ "" → isRooted next = false →
      absolute (absolute cwd path) next = absolute cwd (path ++ "/" ++ next)) ∧
    (isRooted next = false → absolute (absolute cwd "") next = absolute cwd next) ∧
    (isRooted next = true → absolute (absolute cwd path) next = absolute cwd next) := by
  refine ⟨fun hpath hnext => ?_, fun hnext => ?_, fun hnext => absolute_of_isRooted hnext _ _⟩
  · rw [String.append_assoc]
    exact absolute_slash hpath hnext cwd
  · have hempty : isRooted "" = false := by decide
    rw [absolute, resolve_absolute hnext, absolute]
    simp [resolve, hempty, hnext, components_empty, List.foldl_append]

/-- The first path climbs past the root, and so does the second one from there. -/
theorem absolute_composes_climbing :
    "a/../../.." ≠ "" ∧ isRooted "../b//c" = false ∧ isRooted "/d/." = true ∧
      absolute (absolute "/x/y" "a/../../..") "../b//c" = absolute "/x/y" "a/../../../../b//c" ∧
      absolute "/x/y" "a/../../../../b//c" = "/b/c" ∧
      absolute (absolute "/x/y" "") "../b//c" = absolute "/x/y" "../b//c" ∧
      absolute (absolute "/x/y" "a/../../..") "/d/." = absolute "/x/y" "/d/." := by
  have hpath : "a/../../.." ≠ "" := by decide
  have hnext : isRooted "../b//c" = false := by decide
  have hrooted : isRooted "/d/." = true := by decide
  obtain ⟨hbehind, hempty, -⟩ := absolute_composes "/x/y" "a/../../.." "../b//c"
  obtain ⟨-, -, hroot⟩ := absolute_composes "/x/y" "a/../../.." "/d/."
  exact ⟨hpath, hnext, hrooted, hbehind hpath hnext, by decide +kernel, hempty hnext, hroot hrooted⟩

/-! ## Taking a path apart -/

theorem singleton_slash : String.singleton '/' = "/" := rfl

/-- Names joined by slashes, behind a slash, are the way through them. -/
theorem slash_intercalate : ∀ names : List String, "/" ++ "/".intercalate names = ofNames names
  | [] => rfl
  | [name] => by simp [ofNames]
  | name :: next :: rest => by
    have hrest := slash_intercalate (next :: rest)
    rw [ofNames_of_ne_nil (by simp)] at hrest ⊢
    rw [String.intercalate_cons_cons, String.append_assoc, hrest]
    simp only [List.map_cons, String.join_cons, String.append_assoc]

/-- What is joined by slashes is found again, as long as there is no slash in it. -/
theorem components_intercalate {names : List String} (h : ∀ name ∈ names, name ≠ "" ∧ '/' ∉ name.toList) :
    components ("/" ++ "/".intercalate names) = names := by
  have hfront : "/" ++ "/".intercalate names = "" ++ ("/" ++ "/".intercalate names) := String.empty_append.symm
  rw [hfront, components_slash, components_empty, List.nil_append, components_eq_runs, ← singleton_slash]
  exact Text.runs_intercalate fun name hname => ⟨(h name hname).1, (h name hname).2⟩

/-- A path in normal form is the root, or one name below a path in normal form. -/
theorem Normal.root_or_child {path : String} (h : Normal path) :
    path = "/" ∨ ∃ names name, (∀ other ∈ names, IsName other) ∧ IsName name ∧ path = ofNames (names ++ [name]) := by
  obtain ⟨all, hall, rfl⟩ := h
  rcases List.eq_nil_or_concat all with rfl | ⟨names, name, rfl⟩
  · exact .inl rfl
  · rw [List.concat_eq_append] at hall ⊢
    exact .inr ⟨names, name, fun other hother => hall other (List.mem_append_left _ hother), hall name (by simp), rfl⟩

theorem isName_snoc {names : List String} {name : String} (h : ∀ other ∈ names, IsName other) (hname : IsName name) :
    ∀ other ∈ names ++ [name], IsName other := by
  intro other hother
  rcases List.mem_append.1 hother with hother | hother
  · exact h other hother
  · rw [List.mem_singleton.1 hother]
    exact hname

/-- A name means what is below the directory from which it is seen. -/
theorem absolute_child {names : List String} {name : String} (h : ∀ other ∈ names, IsName other) (hname : IsName name) :
    absolute (ofNames names) name = ofNames (names ++ [name]) := by
  have hrooted : isRooted name = false := by
    cases hhead : name.toList.head? with
    | none => simp [isRooted, hhead]
    | some c =>
      have hc : c ≠ '/' := fun hslash => hname.no_slash (hslash ▸ List.mem_of_mem_head? hhead)
      simp [isRooted, hhead, hc]
  rw [absolute, resolve, hrooted, components_ofNames h, components_name hname.ne_empty hname.no_slash]
  simp [foldl_walk_names _ (isName_snoc h hname)]

/-- A path below the root has other names than the root. -/
theorem ofNames_snoc_ne_root {names : List String} {name : String} (h : ∀ other ∈ names ++ [name], IsName other) :
    ofNames (names ++ [name]) ≠ "/" := by
  intro hroot
  have hnone : ofNames (names ++ [name]) = ofNames [] := hroot
  simpa using ofNames_injective h (by simp) hnone

/-- A path in normal form is its names, joined. -/
theorem Normal.join_components {path : String} (h : Normal path) :
    (∀ name ∈ components path, IsName name) ∧ "/" ++ "/".intercalate (components path) = path := by
  obtain ⟨names, hnames, rfl⟩ := h
  rw [components_ofNames hnames]
  exact ⟨hnames, slash_intercalate names⟩

/-- The root has no last name; a path below it has one, and lies in a directory of normal form. -/
theorem Normal.splitLast_cases {path : String} (h : Normal path) :
    (path = "/" ∧ splitLast path = none) ∨
    (path ≠ "/" ∧ ∃ parent name, splitLast path = some (parent, name) ∧ Normal parent ∧ IsName name ∧
      absolute parent name = path ∧ components path = components parent ++ [name]) := by
  rcases h.root_or_child with rfl | ⟨names, name, hnames, hname, rfl⟩
  · exact .inl ⟨rfl, splitLast_root⟩
  · have hall := isName_snoc hnames hname
    refine .inr ⟨ofNames_snoc_ne_root hall, ofNames names, name, splitLast_ofNames names hname, ⟨names, hnames, rfl⟩,
      hname, absolute_child hnames hname, ?_⟩
    rw [components_ofNames hall, components_ofNames hnames]

/-- **The parts of a path** that was made absolute. Its components are its names, the only ones that give the path when they
are joined by slashes behind a slash, and so written it means itself from everywhere. Only the root has no last name; every
other path has a parent, which is tidy as well, and a last name, and it is what this name means from there. -/
theorem absolute_parts (cwd path : String) :
    let whole := absolute cwd path
    (∀ name ∈ components whole, IsName name) ∧
    "/" ++ "/".intercalate (components whole) = whole ∧
    (∀ names, (∀ name ∈ names, name ≠ "" ∧ '/' ∉ name.toList) → "/" ++ "/".intercalate names = whole →
      components whole = names) ∧
    (∀ elsewhere, absolute elsewhere ("/" ++ "/".intercalate (components whole)) = whole) ∧
    (splitLast whole = none ↔ whole = "/") ∧
    (whole ≠ "/" → ∃ parent name, splitLast whole = some (parent, name) ∧ Tidy parent ∧ name ≠ "" ∧
      '/' ∉ name.toList ∧ absolute parent name = whole ∧ components whole = components parent ++ [name]) := by
  intro whole
  have hnormal : Normal whole := absolute_normal cwd path
  obtain ⟨hnames, hjoin⟩ := hnormal.join_components
  have honly : ∀ names, (∀ name ∈ names, name ≠ "" ∧ '/' ∉ name.toList) → "/" ++ "/".intercalate names = whole →
      components whole = names := by
    intro names hnames hwhole
    rw [← hwhole, components_intercalate hnames]
  have hagain : ∀ elsewhere, absolute elsewhere ("/" ++ "/".intercalate (components whole)) = whole := by
    intro elsewhere
    rw [hjoin]
    exact hnormal.absolute_eq elsewhere
  refine ⟨hnames, hjoin, honly, hagain, ?_⟩
  rcases hnormal.splitLast_cases with ⟨hroot, hnone⟩ | ⟨hbelow, parent, name, hlast, hparent, hname, hchild, hparts⟩
  · exact ⟨iff_of_true hnone hroot, fun hbelow => absurd hroot hbelow⟩
  · refine ⟨iff_of_false (by simp [hlast]) hbelow, fun _ => ⟨parent, name, hlast, ?_⟩⟩
    exact ⟨tidy_iff_normal.2 hparent, hname.ne_empty, hname.no_slash, hchild, hparts⟩

/-- Two names, the first of which is not ASCII and leads to the parent. -/
theorem absolute_parts_below :
    absolute "/tmp/é" "../../ü//./ab/" = "/ü/ab" ∧ "/ü/ab" ≠ "/" ∧
      (∀ name ∈ ["ü", "ab"], name ≠ "" ∧ '/' ∉ name.toList) ∧ "/" ++ "/".intercalate ["ü", "ab"] = "/ü/ab" ∧
      components "/ü/ab" = ["ü", "ab"] ∧
      ∃ parent name, splitLast "/ü/ab" = some (parent, name) ∧ Tidy parent ∧ absolute parent name = "/ü/ab" ∧
        components "/ü/ab" = components parent ++ [name] := by
  have hwhole : absolute "/tmp/é" "../../ü//./ab/" = "/ü/ab" := by decide +kernel
  have hbelow : "/ü/ab" ≠ "/" := by decide
  have hnames : ∀ name ∈ ["ü", "ab"], name ≠ "" ∧ '/' ∉ name.toList := by decide +kernel
  have hjoin : "/" ++ "/".intercalate ["ü", "ab"] = "/ü/ab" := by decide +kernel
  have hparts := absolute_parts "/tmp/é" "../../ü//./ab/"
  rw [hwhole] at hparts
  obtain ⟨-, -, honly, -, -, hsplit⟩ := hparts
  obtain ⟨parent, name, hlast, htidy, -, -, hagain, hcomponents⟩ := hsplit hbelow
  exact ⟨hwhole, hbelow, hnames, hjoin, honly _ hnames hjoin, parent, name, hlast, htidy, hagain, hcomponents⟩

end LineShell.Path
