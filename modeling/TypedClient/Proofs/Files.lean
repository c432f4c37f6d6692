import Mathlib.Data.List.DropRight
import TypedClient.CommandLine.Files
import TypedClient.Proofs.FirstFault

/-!
# What files promise

A run meets files through its surroundings. Of these it needs to be known that reading changes
nothing and that a write is done or not done. Which file a path leads to is left open: links and
other names for a directory may lead to a file in many ways.

Files as a value keep these promises. Writing puts one text at one place. The text can be read there
afterwards, by whatever path, and at every other place there is what was there before: no file is
changed, none appears or goes away, and no directory either, as a file is only written into a
directory that is there.
-/

namespace TypedClient

/-! ## Surroundings with a state -/

/-- Files at one moment: what reading and writing would give. -/
structure Snapshot where
  read : String → Except FileFault String
  write : String → String → Except FileFault Unit

namespace Surroundings

variable {σ : Type} (w : Surroundings (StateM σ))

/-- What reading a path gives. -/
def textAt (files : σ) (path : String) : Except FileFault String :=
  (Id.run ((w.read path).run files)).1

/-- What writing a text gives, and the files after it. -/
def put (files : σ) (path text : String) : Except FileFault Unit × σ :=
  Id.run ((w.write path text).run files)

def snapshot (files : σ) : Snapshot where
  read := w.textAt files
  write path text := (w.put files path text).1

/-- Reading changes no file, and neither does a write that fails. -/
structure Lawful : Prop where
  read : ∀ files path, (Id.run ((w.read path).run files)).2 = files
  write : ∀ files path text fault, (w.put files path text).1 = .error fault →
    (w.put files path text).2 = files

/-- The surroundings act like `world` as long as the files are as they are. What they do with other
files is open, and so is what they fetch. -/
structure ActsLike (world : Surroundings (StateM σ)) (files : σ) : Prop where
  read : ∀ path, (w.read path).run files = (world.read path).run files
  write : ∀ path text, (w.write path text).run files = (world.write path text).run files

/-- A text that is written at the path is read by all paths in `same`, and what all other paths lead
to stays as it is. -/
structure Keeps (files : σ) (path : String) (same : String → Prop) : Prop where
  there : ∀ text after, w.put files path text = (.ok (), after) →
    ∀ q, same q → w.textAt after q = .ok text
  elsewhere : ∀ text after, w.put files path text = (.ok (), after) →
    ∀ q, ¬ same q → ∀ old, w.textAt after q = .ok old ↔ w.textAt files q = .ok old

end Surroundings

/-! ## Files as a value -/

namespace Path

theorem isPrefixOf_iff {p q : Path} : p.isPrefixOf q ↔ p.start = q.start ∧ p.names <+: q.names := by
  simp [isPrefixOf]

theorem isPrefixOf_trans {p q r : Path} (h : p.isPrefixOf q) (h' : q.isPrefixOf r) :
    p.isPrefixOf r := by
  rw [isPrefixOf_iff] at h h' ⊢
  exact ⟨h.1.trans h'.1, h.2.trans h'.2⟩

/-- What is on the way to a child is on the way to its directory. -/
theorem isPrefixOf_of_child {p q : Path} {name : String} (h : p.isPrefixOf (q.child name))
    (hne : p ≠ q.child name) : p.isPrefixOf q := by
  rw [isPrefixOf_iff] at h ⊢
  obtain ⟨hstart, hnames⟩ := h
  refine ⟨hstart, ?_⟩
  rcases List.prefix_concat_iff.1 hnames with heq | hprefix
  · obtain ⟨start, names⟩ := p
    cases hstart
    cases heq
    exact absurd rfl hne
  · exact hprefix

theorem eq_below_of_isPrefixOf {p : Path} (h : p.isPrefixOf (below [])) : p = below [] := by
  obtain ⟨start, names⟩ := p
  obtain ⟨hstart, hnames⟩ := isPrefixOf_iff.1 h
  cases hstart
  cases List.prefix_nil.1 hnames
  rfl

end Path

namespace Files

variable {fs : Files}

/-! ### Entries -/

theorem lookup_putEntry (p q : Path) (text : String) (entries : List (Path × Option String)) :
    (putEntry p text entries).lookup q =
      if q = p then some (some text) else entries.lookup q := by
  induction entries with
  | nil =>
    by_cases h : q = p
    · simp [putEntry, h]
    · have hq : (q == p) = false := by simpa using h
      simp [putEntry, List.lookup_cons, h, hq]
  | cons e entries ih =>
    obtain ⟨r, old⟩ := e
    by_cases hr : r = p
    · subst hr
      by_cases h : q = r
      · simp [putEntry, h]
      · have hq : (q == r) = false := by simpa using h
        simp [putEntry, List.lookup_cons, h, hq]
    · rw [putEntry, if_neg hr, List.lookup_cons, List.lookup_cons, ih]
      by_cases h : q = r
      · subst h
        simp [hr]
      · have hq : (q == r) = false := by simpa using h
        rw [hq]

theorem any_putEntry (p q : Path) (text : String) (entries : List (Path × Option String)) :
    (putEntry p text entries).any (fun e => q.isPrefixOf e.1) =
      (q.isPrefixOf p || entries.any fun e => q.isPrefixOf e.1) := by
  induction entries with
  | nil => simp [putEntry]
  | cons e entries ih =>
    by_cases he : e.1 = p
    · simp [putEntry, he]
    · rw [putEntry, if_neg he, List.any_cons, List.any_cons, ih, Bool.or_left_comm]

/-! ### Places -/

theorem fromRoot_concat (way names : List String) (name : String) :
    Path.fromRoot way (names ++ [name]) = (Path.fromRoot way names).child name ∨
      Path.fromRoot way (names ++ [name]) = Path.below [] := by
  simp only [Path.fromRoot, List.isPrefixOf_iff_prefix, List.prefix_concat_iff]
  by_cases hbelow : way <+: names
  · left
    rw [if_pos (.inr hbelow), if_pos hbelow, List.drop_append_of_le_length hbelow.length_le]
    rfl
  · by_cases hhere : way = names ++ [name]
    · right
      rw [if_pos (.inl hhere), hhere, List.drop_length]
    · left
      rw [if_neg (not_or.2 ⟨hhere, hbelow⟩), if_neg hbelow]
      rfl

/-- A child has its place in the place of its directory, or it is the working directory. -/
theorem canonical_child (fs : Files) (p : Path) (name : String) :
    fs.canonical (p.child name) = (fs.canonical p).child name ∨
      fs.canonical (p.child name) = Path.below [] := by
  unfold canonical
  cases fs.workingDirectory with
  | none => exact .inl rfl
  | some way =>
    obtain ⟨start, names⟩ := p
    cases start with
    | above levels =>
      have habove := fromRoot_concat way (way.take (way.length - levels) ++ names) name
      rwa [List.append_assoc] at habove
    | root => exact fromRoot_concat way names name

theorem isStanding_of_isPrefixOf {p q : Path} (h : p.isPrefixOf q) (hq : fs.isStanding q) :
    fs.isStanding p := by
  obtain ⟨start, names⟩ := p
  obtain ⟨start', names'⟩ := q
  obtain ⟨hstart, hnames⟩ := Path.isPrefixOf_iff.1 h
  cases hstart
  cases start with
  | above levels =>
    obtain rfl : names' = [] := by simpa [isStanding] using hq
    cases List.prefix_nil.1 hnames
    rfl
  | root =>
    obtain ⟨way, hway, hprefix⟩ := List.any_eq_true.1 hq
    refine List.any_eq_true.2 ⟨way, hway, ?_⟩
    rw [List.isPrefixOf_iff_prefix] at hprefix ⊢
    exact hnames.trans hprefix

theorem node_congr {p q : Path} (h : fs.canonical p = fs.canonical q) : fs.node p = fs.node q := by
  unfold node
  rw [h]

/-- On the way to a directory there are only directories and files. -/
theorem isStanding_or_any_of_directory {p q : Path} (h : fs.node q = .directory)
    (hp : p.isPrefixOf (fs.canonical q)) :
    (fs.isStanding p || fs.entries.any fun e => p.isPrefixOf e.1) = true := by
  have hq : (fs.isStanding (fs.canonical q) ||
      fs.entries.any fun e => (fs.canonical q).isPrefixOf e.1) = true := by
    unfold node at h
    dsimp only at h
    split at h
    · cases h
    · split at h
      · assumption
      · split at h <;> cases h
  rw [Bool.or_eq_true, List.any_eq_true] at hq ⊢
  rcases hq with hstanding | ⟨e, he, hprefix⟩
  · exact .inl (isStanding_of_isPrefixOf hp hstanding)
  · exact .inr ⟨e, he, Path.isPrefixOf_trans hp hprefix⟩

@[simp] theorem canonical_replace (fs : Files) (target : Path) (text : String) :
    (fs.replace target text).canonical = fs.canonical := rfl

@[simp] theorem isStanding_replace (fs : Files) (target : Path) (text : String) :
    (fs.replace target text).isStanding = fs.isStanding := rfl

@[simp] theorem entries_replace (fs : Files) (target : Path) (text : String) :
    (fs.replace target text).entries = putEntry target text fs.entries := rfl

theorem node_replace_self {target p : Path} (h : fs.canonical p = target) (text : String) :
    (fs.replace target text).node p = .file (some text) := by
  simp [node, h, lookup_putEntry]

/-- A new text in a directory that is there changes no other place. -/
theorem node_replace_other {directory p : Path} {name : String}
    (hdirectory : fs.node directory = .directory)
    (hne : fs.canonical p ≠ fs.canonical (directory.child name)) (text : String) :
    (fs.replace (fs.canonical (directory.child name)) text).node p = fs.node p := by
  unfold node
  simp only [canonical_replace, isStanding_replace, entries_replace, lookup_putEntry, if_neg hne,
    any_putEntry]
  by_cases hway : (fs.canonical p).isPrefixOf (fs.canonical (directory.child name))
  · -- What is on the way to the new text is on the way to its directory, and is there already.
    have hparent : (fs.canonical p).isPrefixOf (fs.canonical directory) := by
      rcases canonical_child fs directory name with hchild | hhere
      · rw [hchild] at hway hne
        exact Path.isPrefixOf_of_child hway hne
      · rw [hhere] at hway hne
        exact absurd (Path.eq_below_of_isPrefixOf hway) hne
    have hthere := isStanding_or_any_of_directory hdirectory hparent
    rw [if_pos hthere, hway, Bool.true_or, Bool.or_true, if_pos rfl]
  · simp only [Bool.not_eq_true] at hway
    rw [hway, Bool.false_or]
    rfl

/-! ### Paths -/

/-- The place that a path leads to. There need not be anything. -/
def resolve (fs : Files) (path : String) : Except FileFault Path := do
  let (start, parts) ← parts path
  return fs.canonical (← fs.follow start parts)

theorem resolve_eq_ok_iff {path : String} {target : Path} :
    fs.resolve path = .ok target ↔ ∃ start names place, parts path = .ok (start, names) ∧
      fs.follow start names = .ok place ∧ fs.canonical place = target := by
  constructor
  · intro h
    obtain ⟨⟨start, names⟩, hparts, h⟩ := bind_eq_ok_iff.1 h
    obtain ⟨place, hfollow, h⟩ := bind_eq_ok_iff.1 h
    exact ⟨start, names, place, hparts, hfollow, Except.ok.inj h⟩
  · rintro ⟨start, names, place, hparts, hfollow, rfl⟩
    exact bind_eq_ok_iff.2 ⟨_, hparts, bind_eq_ok_iff.2 ⟨place, hfollow, rfl⟩⟩

theorem read_eq_ok_iff {path text : String} :
    fs.read path = .ok text ↔ ∃ start names place, parts path = .ok (start, names) ∧
      fs.follow start names = .ok place ∧ fs.node place = .file (some text) := by
  constructor
  · intro h
    obtain ⟨⟨start, names⟩, hparts, h⟩ := bind_eq_ok_iff.1 h
    obtain ⟨place, hfollow, h⟩ := bind_eq_ok_iff.1 h
    refine ⟨start, names, place, hparts, hfollow, ?_⟩
    cases hnode : fs.node place with
    | nothing | directory =>
      rw [hnode] at h
      cases h
    | file found =>
      rw [hnode] at h
      cases found with
      | none => cases h
      | some found =>
        cases h
        rfl
  · rintro ⟨start, names, place, hparts, hfollow, hnode⟩
    refine bind_eq_ok_iff.2 ⟨_, hparts, bind_eq_ok_iff.2 ⟨place, hfollow, ?_⟩⟩
    rw [hnode]
    rfl

theorem follow_append (fs : Files) (place : Path) (front back : List String) :
    fs.follow place (front ++ back) = (fs.follow place front >>= fun p => fs.follow p back) := by
  induction front generalizing place with
  | nil => rfl
  | cons part front ih =>
    rw [List.cons_append, follow, follow]
    cases fs.node place with
    | nothing | file => rfl
    | directory =>
      dsimp only
      split_ifs
      · exact ih place
      · exact ih place.parent
      · rfl
      · exact ih (place.child part)

/-- Files with the same directories have the same ways to go. -/
theorem follow_of_directories {fs' : Files}
    (h : ∀ p, fs.node p = .directory → fs'.node p = .directory) {place target : Path}
    {parts : List String} (hfollow : fs.follow place parts = .ok target) :
    fs'.follow place parts = .ok target := by
  induction parts generalizing place with
  | nil => exact hfollow
  | cons part parts ih =>
    rw [follow] at hfollow ⊢
    cases hnode : fs.node place with
    | nothing | file =>
      rw [hnode] at hfollow
      cases hfollow
    | directory =>
      rw [hnode] at hfollow
      rw [h place hnode]
      dsimp only at hfollow ⊢
      split_ifs at hfollow ⊢
      · exact ih hfollow
      · exact ih hfollow
      · exact ih hfollow

/-! ### Writes -/

/-- Where nothing is cut off the end and the last part is a name, it is the last of the parts. -/
theorem last_part {parts : List String}
    (h : ¬ ((parts.reverse.dropWhile String.isEmpty).reverse.length < parts.length ∨
      (parts.reverse.dropWhile String.isEmpty).reverse.getLast?.getD "" ∈ ["", ".", ".."])) :
    ∃ front name, parts = front ++ [name] ∧ name ∉ ["", ".", ".."] ∧
      (parts.reverse.dropWhile String.isEmpty).reverse.dropLast = front ∧
      (parts.reverse.dropWhile String.isEmpty).reverse.getLast?.getD "" = name := by
  obtain ⟨hlength, hname⟩ := not_or.1 h
  have hnamed : (parts.reverse.dropWhile String.isEmpty).reverse = parts :=
    (List.rdropWhile_prefix String.isEmpty parts).eq_of_length_le (Nat.le_of_not_lt hlength)
  rw [hnamed] at hname ⊢
  cases hlast : parts.getLast? with
  | none => simp [hlast] at hname
  | some name =>
    rw [hlast, Option.getD_some] at hname
    exact ⟨parts.dropLast, name, (List.dropLast_append_getLast? name hlast).symm, hname, rfl, rfl⟩

/-- All that a write that succeeds has found out, and what it does. -/
theorem write_eq_ok {fs' : Files} {path text : String} (h : fs.write path text = .ok fs') :
    ∃ directory name, fs.resolve path = .ok (fs.canonical (directory.child name)) ∧
      fs.node directory = .directory ∧ fs.node (directory.child name) ≠ .directory ∧
      (fs.canonical (directory.child name) ≠ Path.nullDevice →
        fs' = fs.replace (fs.canonical (directory.child name)) text) := by
  obtain ⟨⟨start, parts⟩, hparts, h⟩ := bind_eq_ok_iff.1 h
  dsimp only at h
  obtain ⟨directory, hfollow, h⟩ := bind_eq_ok_iff.1 h
  cases hnode : fs.node directory with
  | nothing | file =>
    rw [hnode] at h
    cases h
  | directory =>
    rw [hnode] at h
    dsimp only at h
    by_cases hlast : (parts.reverse.dropWhile String.isEmpty).reverse.length < parts.length ∨
        (parts.reverse.dropWhile String.isEmpty).reverse.getLast?.getD "" ∈ ["", ".", ".."]
    · rw [if_pos hlast] at h
      cases h
    rw [if_neg hlast] at h
    obtain ⟨front, name, rfl, hname, hfront, hgetLast⟩ := last_part hlast
    rw [hgetLast] at h
    rw [hfront] at hfollow
    by_cases hlimit : nameLimit < name.utf8ByteSize
    · rw [if_pos hlimit] at h
      cases h
    rw [if_neg hlimit] at h
    by_cases htarget : fs.node (directory.child name) = .directory
    · rw [if_pos htarget] at h
      cases h
    rw [if_neg htarget] at h
    refine ⟨directory, name, ?_, hnode, htarget, fun hnull => ?_⟩
    · refine resolve_eq_ok_iff.2 ⟨start, front ++ [name], directory.child name, hparts, ?_, rfl⟩
      simp only [List.mem_cons, List.not_mem_nil, or_false, not_or] at hname
      rw [follow_append, hfollow]
      show fs.follow directory [name] = _
      rw [follow, hnode]
      simp [hname, hlimit, follow]
    · rw [if_neg hnull] at h
      exact (Except.ok.inj h).symm

/-- The text is read by all paths that led to its place, and all others lead to what they led to. -/
theorem read_of_write {fs' : Files} {path text : String} {target : Path}
    (hwrite : fs.write path text = .ok fs') (hresolve : fs.resolve path = .ok target)
    (hnull : target ≠ Path.nullDevice) (q : String) :
    (fs.resolve q = .ok target → fs'.read q = .ok text) ∧
      (fs.resolve q ≠ .ok target → ∀ old, fs'.read q = .ok old ↔ fs.read q = .ok old) := by
  obtain ⟨directory, name, hpath, hdirectory, htarget, hreplace⟩ := write_eq_ok hwrite
  cases hresolve.symm.trans hpath
  cases hreplace hnull
  have hself := fun {p} (hp : fs.canonical p = fs.canonical (directory.child name)) =>
    node_replace_self hp text
  have hother := fun {p} (hp : fs.canonical p ≠ fs.canonical (directory.child name)) =>
    node_replace_other hdirectory hp text
  -- The directories are the same, so each path leads where it led before.
  have hkept : ∀ p, fs.node p = .directory →
      (fs.replace (fs.canonical (directory.child name)) text).node p = .directory := by
    intro p hp
    rw [hother fun heq => htarget (node_congr heq ▸ hp), hp]
  have hnew : ∀ p, (fs.replace (fs.canonical (directory.child name)) text).node p = .directory →
      fs.node p = .directory := by
    intro p hp
    by_cases heq : fs.canonical p = fs.canonical (directory.child name)
    · rw [hself heq] at hp
      cases hp
    · rwa [hother heq] at hp
  constructor
  · intro hq
    obtain ⟨start, names, place, hparts, hfollow, hplace⟩ := resolve_eq_ok_iff.1 hq
    exact read_eq_ok_iff.2
      ⟨start, names, place, hparts, follow_of_directories hkept hfollow, hself hplace⟩
  · intro hq old
    rw [read_eq_ok_iff, read_eq_ok_iff]
    constructor
    · rintro ⟨start, names, place, hparts, hfollow, hnode⟩
      have hbefore := follow_of_directories hnew hfollow
      have hplace := fun heq => hq (resolve_eq_ok_iff.2 ⟨start, names, place, hparts, hbefore, heq⟩)
      exact ⟨start, names, place, hparts, hbefore, hother hplace ▸ hnode⟩
    · rintro ⟨start, names, place, hparts, hfollow, hnode⟩
      have hplace := fun heq => hq (resolve_eq_ok_iff.2 ⟨start, names, place, hparts, hfollow, heq⟩)
      exact ⟨start, names, place, hparts, follow_of_directories hkept hfollow,
        (hother hplace).trans hnode⟩

/-! ### Their surroundings -/

theorem textAt_surroundings (fs : Files) (path : String) :
    surroundings.textAt fs path = fs.read path := rfl

theorem put_surroundings (fs : Files) (path text : String) :
    (∃ fault, fs.write path text = .error fault ∧
        surroundings.put fs path text = (.error fault, fs)) ∨
      ∃ fs', fs.write path text = .ok fs' ∧ surroundings.put fs path text = (.ok (), fs') := by
  cases h : fs.write path text with
  | error fault => exact .inl ⟨fault, rfl, by simp [Surroundings.put, surroundings, h]⟩
  | ok fs' => exact .inr ⟨fs', rfl, by simp [Surroundings.put, surroundings, h]⟩

theorem lawful_surroundings : surroundings.Lawful where
  read _ _ := rfl
  write := by
    intro fs path text fault hfault
    obtain ⟨fault', -, hput⟩ | ⟨fs', -, hput⟩ := put_surroundings fs path text
    · rw [hput]
    · rw [hput] at hfault
      cases hfault

/-- A text stays where it is written, unless it is swallowed. -/
theorem keeps_surroundings {path : String} {target : Path} (hresolve : fs.resolve path = .ok target)
    (hnull : target ≠ Path.nullDevice) :
    surroundings.Keeps fs path fun q => fs.resolve q = .ok target := by
  have hwrite : ∀ {text after}, surroundings.put fs path text = (.ok (), after) →
      fs.write path text = .ok after := by
    intro text after h
    obtain ⟨fault, -, hput⟩ | ⟨fs', hwrite, hput⟩ := put_surroundings fs path text
    · cases hput.symm.trans h
    · cases hput.symm.trans h
      exact hwrite
  exact {
    there := fun text after h q => (read_of_write (hwrite h) hresolve hnull q).1
    elsewhere := fun text after h q => (read_of_write (hwrite h) hresolve hnull q).2 }

end Files

end TypedClient
