import LineShell.Path
import LineShell.Proofs.Spacing

/-!
# Paths in normal form

A path in normal form is a way of names from the root (`Path.Normal`), written in one way only: taking it apart gives the
names back (`Path.components_ofNames`), and so does cutting off the last one (`Path.splitLast_ofNames`).

- `Path.absolute_normal`: every path that is made absolute has normal form;
- `Path.absolute_ofNames`: a path that has normal form is not changed;
- `Path.absolute_slash`: what is seen from a directory is what is written behind it.
-/

namespace LineShell.Path

/-- A name of a file: not empty, without a slash, and no way to walk in place or up. -/
structure IsName (name : String) : Prop where
  ne_empty : name ≠ ""
  no_slash : '/' ∉ name.toList
  ne_dot : name ≠ "."
  ne_up : name ≠ ".."

/-- The path leads through names from the root. -/
def Normal (path : String) : Prop :=
  ∃ names, (∀ name ∈ names, IsName name) ∧ path = ofNames names

/-! ## Components -/

theorem components_eq_runs (path : String) : components path = Text.runs '/' path := rfl

/-- Components are not empty and have no slash. -/
theorem mem_components {path name : String} (h : name ∈ components path) : name ≠ "" ∧ '/' ∉ name.toList := by
  rw [components_eq_runs] at h
  obtain ⟨hne, hslash⟩ := Text.isRun_of_mem_runs h
  exact ⟨hne, hslash⟩

/-- A slash parts the components. -/
theorem components_slash (front back : String) :
    components (front ++ ("/" ++ back)) = components front ++ components back :=
  Text.runs_append_sep '/' front back

theorem components_empty : components "" = [] :=
  Text.runs_empty

theorem components_name {name : String} (hne : name ≠ "") (hslash : '/' ∉ name.toList) : components name = [name] :=
  Text.IsRun.runs_eq ⟨hne, hslash⟩

/-- The names of a way, written behind something else. -/
theorem components_append_join : ∀ {names : List String} (front : String), (∀ name ∈ names, IsName name) →
    components (front ++ String.join (names.map ("/" ++ ·))) = components front ++ names
  | [], front, _ => by simp
  | name :: names, front, h => by
    have hname := h name List.mem_cons_self
    have hfront : front ++ String.join ((name :: names).map ("/" ++ ·)) =
        (front ++ ("/" ++ name)) ++ String.join (names.map ("/" ++ ·)) := by
      simp only [List.map_cons, String.join_cons, String.append_assoc]
    rw [hfront, components_append_join _ fun other hother => h other (List.mem_cons_of_mem _ hother), components_slash,
      components_name hname.ne_empty hname.no_slash, List.append_assoc]
    rfl

theorem ofNames_of_ne_nil {names : List String} (h : names ≠ []) :
    ofNames names = String.join (names.map ("/" ++ ·)) := by
  rw [ofNames, if_neg (by simpa using h)]

/-- **A path in normal form is taken apart** into its names. -/
theorem components_ofNames {names : List String} (h : ∀ name ∈ names, IsName name) :
    components (ofNames names) = names := by
  by_cases hnil : names = []
  · subst hnil
    decide +kernel
  · have := components_append_join "" h
    rwa [String.empty_append, components_empty, List.nil_append, ← ofNames_of_ne_nil hnil] at this

/-- A path in normal form is written in one way. -/
theorem ofNames_injective {names names' : List String} (h : ∀ name ∈ names, IsName name)
    (h' : ∀ name ∈ names', IsName name) (heq : ofNames names = ofNames names') : names = names' := by
  rw [← components_ofNames h, heq, components_ofNames h']

/-! ## Walking -/

/-- Walking through components gathers names. -/
theorem foldl_walk_isName : ∀ {parts stack : List String}, (∀ part ∈ parts, part ≠ "" ∧ '/' ∉ part.toList) →
    (∀ name ∈ stack, IsName name) → ∀ name ∈ parts.foldl walk stack, IsName name
  | [], _, _, hstack => hstack
  | part :: parts, stack, hparts, hstack => by
    obtain ⟨hne, hslash⟩ := hparts part List.mem_cons_self
    have hwalk : ∀ name ∈ walk stack part, IsName name := by
      intro name hname
      unfold walk at hname
      split at hname
      · exact hstack name hname
      · next hdot =>
        split at hname
        · exact hstack name (List.mem_of_mem_tail hname)
        · next hup =>
          rcases List.mem_cons.1 hname with rfl | hname
          · exact ⟨hne, hslash, hdot, hup⟩
          · exact hstack name hname
    rw [List.foldl_cons]
    exact foldl_walk_isName (fun other hother => hparts other (List.mem_cons_of_mem _ hother)) hwalk

/-- Walking through names goes down. -/
theorem foldl_walk_names : ∀ {names : List String} (stack : List String), (∀ name ∈ names, IsName name) →
    names.foldl walk stack = names.reverse ++ stack
  | [], _, _ => rfl
  | name :: names, stack, h => by
    have hname := h name List.mem_cons_self
    rw [List.foldl_cons, foldl_walk_names _ fun other hother => h other (List.mem_cons_of_mem _ hother), walk,
      if_neg hname.ne_dot, if_neg hname.ne_up, List.reverse_cons, List.append_assoc]
    rfl

theorem resolve_isName (cwd path : String) : ∀ name ∈ resolve cwd path, IsName name := by
  intro name hname
  refine foldl_walk_isName (fun part hpart => ?_) (by simp) name (List.mem_reverse.1 hname)
  rcases List.mem_append.1 hpart with hstart | hpath
  · split at hstart
    · cases hstart
    · exact mem_components hstart
  · exact mem_components hpath

/-- **What is made absolute has normal form.** -/
theorem absolute_normal (cwd path : String) : Normal (absolute cwd path) :=
  ⟨resolve cwd path, resolve_isName cwd path, rfl⟩

theorem isRooted_ofNames (names : List String) : isRooted (ofNames names) = true := by
  cases names with
  | nil => decide +kernel
  | cons name names => simp [ofNames_of_ne_nil, isRooted]

/-- **A path in normal form** means itself, wherever it is seen from. -/
theorem absolute_ofNames {names : List String} (h : ∀ name ∈ names, IsName name) (cwd : String) :
    absolute cwd (ofNames names) = ofNames names := by
  rw [absolute, resolve, isRooted_ofNames, components_ofNames h]
  simp [foldl_walk_names _ h]

theorem Normal.absolute_eq {path : String} (h : Normal path) (cwd : String) : absolute cwd path = path := by
  obtain ⟨names, hnames, rfl⟩ := h
  exact absolute_ofNames hnames cwd

/-- What is written behind a path in normal form is walked from its place. -/
theorem resolve_ofNames_slash {names : List String} (h : ∀ name ∈ names, IsName name) (cwd back : String) :
    resolve cwd (ofNames names ++ ("/" ++ back)) = ((components back).foldl walk names.reverse).reverse := by
  have hrooted : isRooted (ofNames names ++ ("/" ++ back)) = true := by
    have hfront := isRooted_ofNames names
    unfold isRooted at hfront ⊢
    rw [String.toList_append, List.head?_append, Option.or_of_isSome]
    · exact hfront
    · cases hhead : (ofNames names).toList.head? with
      | none => rw [hhead] at hfront; cases hfront
      | some c => rfl
  rw [resolve, hrooted, components_slash, components_ofNames h]
  simp [List.foldl_append, foldl_walk_names _ h]

/-- A path that is made absolute twice. -/
theorem absolute_absolute (cwd path : String) : absolute cwd (absolute cwd path) = absolute cwd path :=
  (absolute_normal cwd path).absolute_eq cwd

/-- What stands behind a text says nothing about where the text starts. -/
theorem isRooted_append {front : String} (h : front ≠ "") (back : String) :
    isRooted (front ++ back) = isRooted front := by
  have hne : front.toList ≠ [] := by simpa using h
  obtain ⟨c, rest, hfront⟩ := List.exists_cons_of_ne_nil hne
  simp [isRooted, hfront]

/-- A path that does not start at the root is walked from the place from which it is seen. -/
theorem resolve_absolute {path : String} (hpath : isRooted path = false) (cwd dir : String) :
    resolve (absolute cwd dir) path = ((components path).foldl walk (resolve cwd dir).reverse).reverse := by
  have hnames := resolve_isName cwd dir
  rw [absolute, resolve, hpath, components_ofNames hnames]
  simp only [Bool.false_eq_true, ↓reduceIte]
  rw [List.foldl_append, foldl_walk_names [] hnames, List.append_nil]

/-- A dot means the place from which it is seen. -/
theorem Normal.absolute_dot {path : String} (h : Normal path) : absolute path "." = path := by
  have hdot : components "." = ["."] := components_name (by decide) (by decide)
  have hresolve := resolve_absolute (by decide : isRooted "." = false) path path
  rw [h.absolute_eq, hdot] at hresolve
  have hsame : resolve path "." = resolve path path := by simpa [walk] using hresolve
  rw [absolute, hsame]
  exact h.absolute_eq path

/-- A path that is written behind `dir` is walked from the place that `dir` means. -/
theorem resolve_slash {dir : String} (hdir : dir ≠ "") (cwd path : String) :
    resolve cwd (dir ++ ("/" ++ path)) = ((components path).foldl walk (resolve cwd dir).reverse).reverse := by
  simp only [resolve, isRooted_append hdir, components_slash, List.foldl_append, List.reverse_reverse]

/-- **Walking in two parts**: seen from `dir`, a path that does not start at the root means what it means when it is
written behind `dir`. -/
theorem absolute_slash {dir path : String} (hdir : dir ≠ "") (hpath : isRooted path = false) (cwd : String) :
    absolute (absolute cwd dir) path = absolute cwd (dir ++ ("/" ++ path)) := by
  rw [absolute, resolve_absolute hpath, ← resolve_slash hdir, absolute]

/-- A text without a slash leads one name down from a place only as that name. -/
theorem resolve_ofNames_slash_eq_iff {names : List String} {name text : String} (h : ∀ name ∈ names, IsName name)
    (hname : IsName name) (htext : '/' ∉ text.toList) (cwd : String) :
    resolve cwd (ofNames names ++ ("/" ++ text)) = names ++ [name] ↔ text = name := by
  have hlength {other : List String} (hle : other.length ≤ names.length) : other ≠ names ++ [name] := by
    intro heq
    rw [heq, List.length_append, List.length_singleton] at hle
    omega
  rw [resolve_ofNames_slash h]
  by_cases hempty : text = ""
  · rw [hempty, components_empty]
    exact iff_of_false (hlength (by simp)) hname.ne_empty.symm
  · rw [components_name hempty htext, List.foldl_cons, List.foldl_nil, walk]
    by_cases hdot : text = "."
    · rw [if_pos hdot, hdot]
      exact iff_of_false (hlength (by simp)) hname.ne_dot.symm
    · by_cases hup : text = ".."
      · rw [if_neg hdot, if_pos hup, hup]
        exact iff_of_false (hlength (by simp)) hname.ne_up.symm
      · rw [if_neg hdot, if_neg hup]
        simp

/-! ## The last name -/

theorem ofNames_snoc (names : List String) (name : String) :
    ofNames (names ++ [name]) = String.join (names.map ("/" ++ ·)) ++ ("/" ++ name) := by
  rw [ofNames_of_ne_nil (by simp)]
  simp

/-- A text is cut at the last slash. -/
theorem cutLast_slash (front : String) {name : String} (h : '/' ∉ name.toList) :
    cutLast (front ++ ("/" ++ name)) = some (front, name) := by
  have hname : ∀ c ∈ name.toList.reverse, (c != '/') = true := by
    intro c hc
    simp only [bne_iff_ne, ne_eq]
    rintro rfl
    exact h (List.mem_reverse.1 hc)
  simp [cutLast, List.takeWhile_append_of_pos hname, List.dropWhile_append_of_pos hname]

theorem splitLast_root : splitLast (ofNames []) = none := by
  decide +kernel

/-- **The last name of a path** and the directory it is in. -/
theorem splitLast_ofNames (names : List String) {name : String} (h : IsName name) :
    splitLast (ofNames (names ++ [name])) = some (ofNames names, name) := by
  rw [splitLast, ofNames_snoc, cutLast_slash _ h.no_slash]
  dsimp only
  rw [if_neg h.ne_empty]
  cases names with
  | nil => rfl
  | cons first rest =>
    rw [← ofNames_of_ne_nil (by simp), if_neg]
    intro hempty
    have hrooted := isRooted_ofNames (first :: rest)
    rw [hempty] at hrooted
    exact absurd hrooted (by decide)

end LineShell.Path
