import ComponentReference.Host.Walk
import ComponentReference.Proofs.Host.Tree
import ComponentReference.Proofs.Text.Lines

/-!
# Paths and their texts

The system is given paths as texts and takes them apart at the slashes.  For a path that
is settled, that is absolute and made of proper names, it finds the same names again:
`namesIn_text`.  The text of a path with one more name ends in that name, which makes the
system look for an entry rather than for a directory: `PathEnding.ofString_text_child`.
-/

namespace ComponentReference

namespace Path

/-! ## The pieces of a text -/

theorem pieces_append_slash (s t : String) : pieces (s ++ "/" ++ t) = pieces s ++ pieces t := by
  have hlist : (s ++ "/" ++ t).toList = s.toList ++ '/' :: t.toList := by
    simp [String.toList_append]
  rw [pieces, hlist, Text.split_append_cons, List.map_append]
  rfl

theorem pieces_of_not_mem {name : String} (h : '/' ∉ name.toList) : pieces name = [name] := by
  rw [pieces, Text.split_of_not_mem h]
  simp

theorem not_mem_of_mem_pieces {s piece : String} (h : piece ∈ pieces s) : '/' ∉ piece.toList := by
  obtain ⟨chars, hchars, rfl⟩ := List.mem_map.mp h
  rw [String.toList_ofList]
  exact Text.not_mem_of_mem_split hchars

theorem Proper.isName {name : String} (h : Proper name) : isName name = true := by
  simp [Path.isName, h.1, h.2.1]

theorem namesIn_append_slash (s t : String) :
    namesIn (s ++ "/" ++ t) = namesIn s ++ namesIn t := by
  rw [namesIn, pieces_append_slash, List.filter_append]
  rfl

theorem Proper.namesIn {name : String} (h : Proper name) : Path.namesIn name = [name] := by
  rw [Path.namesIn, pieces_of_not_mem h.2.2.2, List.filter_cons_of_pos h.isName, List.filter_nil]

/-! ## Settled paths -/

/-- The path is absolute, and each of its names leads to an entry of a directory. -/
structure IsSettled (p : Path) : Prop where
  absolute : p.anchor ≠ .nothing
  proper : ∀ name ∈ p.names, Proper name

theorem IsSettled.child {p : Path} (h : p.IsSettled) {name : String} (hname : Proper name) :
    (p.child name).IsSettled := by
  refine ⟨h.absolute, fun name' hname' => ?_⟩
  rcases List.mem_append.mp hname' with hold | hnew
  · exact h.proper name' hold
  · rw [List.mem_singleton.mp hnew]
    exact hname

theorem namesIn_intercalate {names : List String} (h : ∀ name ∈ names, namesIn name = [name]) :
    namesIn ("/".intercalate names) = names := by
  induction names with
  | nil => decide
  | cons name rest ih =>
      have hname := h name (List.mem_cons_self ..)
      have hrest := ih fun name' hmem => h name' (List.mem_cons_of_mem _ hmem)
      rcases rest with _ | ⟨next, rest⟩
      · rw [String.intercalate_singleton, hname]
      · rw [String.intercalate_cons_cons, namesIn_append_slash, hname, hrest]
        rfl

/-- The system finds the names of an absolute path in its text, if each of them is what is
written between two slashes. -/
theorem namesIn_text_of_absolute {p : Path} (hp : p.anchor ≠ .nothing)
    (h : ∀ name ∈ p.names, namesIn name = [name]) : namesIn p.text = p.names := by
  have hslash : ∀ s, namesIn ("/" ++ s) = namesIn s := fun s => by
    have := namesIn_append_slash "" s
    rwa [String.empty_append] at this
  have hnames := namesIn_intercalate h
  unfold text
  cases hanchor : p.anchor with
  | nothing => exact absurd hanchor hp
  | slash =>
      dsimp only
      rw [hslash, hnames]
  | twoSlashes =>
      dsimp only
      have hdouble : "//" ++ "/".intercalate p.names = "/" ++ ("/" ++ "/".intercalate p.names) := by
        rw [← String.append_assoc]
        rfl
      rw [hdouble, hslash, hslash, hnames]

/-- The system finds the names of a settled path in its text. -/
theorem namesIn_text {p : Path} (h : p.IsSettled) : namesIn p.text = p.names :=
  namesIn_text_of_absolute h.absolute fun name hname => (h.proper name hname).namesIn

/-- The text of an absolute path begins with a slash. -/
theorem beginsWith_text {p : Path} (h : p.anchor ≠ .nothing) :
    Text.beginsWith "/" p.text = true := by
  unfold text
  cases hanchor : p.anchor with
  | nothing => exact absurd hanchor h
  | slash => simp [Text.beginsWith, String.toList_append]
  | twoSlashes => simp [Text.beginsWith, String.toList_append]

theorem text_ne_empty {p : Path} (hp : p.anchor ≠ .nothing) : p.text ≠ "" := fun hempty => by
  have := beginsWith_text hp
  rw [hempty] at this
  simp [Text.beginsWith] at this

/-- What stands before the last name of a path in its text. -/
theorem exists_text_child (p : Path) (hp : p.anchor ≠ .nothing) (name : String) :
    ∃ before, (p.child name).text = before ++ "/" ++ name := by
  unfold text child
  cases hanchor : p.anchor with
  | nothing => exact absurd hanchor hp
  | slash =>
      rcases hnames : p.names with _ | ⟨first, rest⟩
      · exact ⟨"", by simp⟩
      · refine ⟨"/" ++ "/".intercalate (first :: rest), ?_⟩
        dsimp only
        rw [String.intercalate_append_of_ne_nil (by simp) (by simp), String.intercalate_singleton]
        simp only [String.append_assoc]
  | twoSlashes =>
      rcases hnames : p.names with _ | ⟨first, rest⟩
      · exact ⟨"/", by simp⟩
      · refine ⟨"//" ++ "/".intercalate (first :: rest), ?_⟩
        dsimp only
        rw [String.intercalate_append_of_ne_nil (by simp) (by simp), String.intercalate_singleton]
        simp only [String.append_assoc]

end Path

/-- A path that ends in a proper name is to lead to an entry. -/
theorem FileSystem.PathEnding.ofString_text_child {p : Path} (hp : p.anchor ≠ .nothing)
    {name : String} (h : Path.Proper name) :
    PathEnding.ofString (p.child name).text = .name := by
  obtain ⟨before, hbefore⟩ := p.exists_text_child hp name
  rw [PathEnding.ofString, hbefore, Path.pieces_append_slash, Path.pieces_of_not_mem h.2.2.2,
    List.reverse_append]
  simp only [List.reverse_singleton, List.singleton_append]
  split
  · next heq => exact absurd (List.cons.inj heq).1 h.2.1
  · next heq => exact absurd (List.cons.inj heq).1 h.1
  · rfl

end ComponentReference
