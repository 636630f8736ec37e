import ComponentReference.Proofs.Host.Directories
import Mathlib.Tactic.MkIffOfInductiveProp

/-!
# Writing into a directory

A page is written to an entry of the output directory.  `Accepts` says when that goes
well, `written` what it leaves, and `write_child_iff` that the two are all there is to it.
What a whole list of writes leaves at each place is a fold of single ones,
`overlay`: the last write of a name counts, and doing it all again changes nothing.

The directory is `Plain`: it holds no link that would lead a write elsewhere, and no
file with a second name under which the write could be seen.
-/

namespace ComponentReference

/-- What is at a place after content has been written there.  A file or nothing becomes a
file with the content; all else keeps nothing of it. -/
def Entry.overwritten (content : Bytes) : Option Entry → Option Entry
  | none | some (.file _) => some (.file content)
  | some e => some e

@[simp] theorem Entry.overwritten_overwritten (content content' : Bytes) (e? : Option Entry) :
    Entry.overwritten content (Entry.overwritten content' e?) = Entry.overwritten content e? := by
  rcases e? with _ | _ | _ | _ | _ | _ <;> rfl

/-- What is there then was there before, or is a file. -/
theorem Entry.overwritten_cases {content : Bytes} {e? : Option Entry} {e : Entry}
    (h : Entry.overwritten content e? = some e) : e? = some e ∨ e = .file content := by
  rcases e? with _ | _ | _ | _ | _ | _
  case none => exact .inr (Option.some_inj.mp h).symm
  case some.file => exact .inr (Option.some_inj.mp h).symm
  all_goals exact .inl h

namespace FileSystem

variable {fs fs' : FileSystem} {p : Path} {name : String} {place : Location} {content : Bytes}

/-! ## One write -/

/-- The content may be written to the entry of that name in the directory at a place. -/
@[mk_iff]
structure Accepts (fs : FileSystem) (place : Location) (name : String) (content : Bytes) :
    Prop where
  enter : fs.mayRun place = true
  size : Utf8.size name ≤ maxNameSize
  entry : match fs.get? (place ++ [name]) with
    | none => fs.mayChange place = true
    | some (.directory) | some (.link _) => False
    | some (.device d) =>
        fs.mayWrite (place ++ [name]) = true ∧ d ≠ .terminal ∧ (d = .full → content = [])
    | some (.file _) | some .queue => fs.mayWrite (place ++ [name]) = true

/-- The file system after content has been written at a place where it is accepted. -/
def written (fs : FileSystem) (l : Location) (content : Bytes) : FileSystem :=
  match fs.get? l with
  | none => fs.make l (.file content) 0o644
  | some (.file _) => fs.fill l content
  | some _ => fs

theorem write_of_textFault {text : String} {fault : Fault} (h : textFault? text = some fault)
    (here : Location) (content : Bytes) : fs.write here text content = .error fault := by
  rw [write, modify, locate_of_textFault h]

/-- Writing to an entry of a directory goes well if it is accepted, and only then. -/
theorem write_child_iff (tree : fs.IsTree) (hp : p.IsSettled) (hname : Path.Proper name)
    (hleads : fs.Leads p place) (hlink : ∀ target, fs.get? (place ++ [name]) ≠ some (.link target))
    (here : Location) :
    fs.write here (p.child name).text content = .ok fs' ↔
      textFault? (p.child name).text = none ∧ fs.Accepts place name content ∧
        fs' = fs.written (place ++ [name]) content := by
  cases htext : textFault? (p.child name).text with
  | some fault => simp [write_of_textFault htext]
  | none =>
      rw [write, modify, locate_child hp hname htext rfl hleads
        (fun target htarget => absurd htarget (hlink target)),
        arrive_of_directory (hleads.get? tree)]
      by_cases hrun : fs.mayRun place = true
      swap
      · simp [hrun, accepts_iff, Except.mapError]
      by_cases hsize : maxNameSize < Utf8.size name
      · simp [hrun, hsize, accepts_iff, Except.mapError, Nat.not_le.mpr hsize]
      rw [accepts_iff, written, hrun, if_neg (by simp), if_neg hsize]
      simp only [Nat.not_lt.mp hsize, true_and, Except.mapError]
      cases fs.get? (place ++ [name]) with
      | none =>
          dsimp only
          rw [List.dropLast_concat]
          by_cases hchange : fs.mayChange place = true <;> simp [hchange, eq_comm]
      | some e =>
          by_cases hwrite : fs.mayWrite (place ++ [name]) = true
          · rcases e with _ | _ | _ | ⟨_ | _ | _ | _ | _⟩ | _ <;> simp [hwrite, eq_comm]
            -- a device without room accepts what is empty
            by_cases hempty : content = [] <;> simp [hempty, eq_comm]
          · cases e <;> simp [hwrite]

/-! ## What one write changes -/

theorem grows_written_of_oneFile {l : Location}
    (hone : ∀ old, fs.get? l = some (.file old) → fs.OneFile l) (content : Bytes) :
    fs.Grows (fs.written l content) := by
  unfold written
  split
  · next hnone => exact grows_make _ _ hnone
  · next old hfile => exact grows_fill (hone old hfile) hfile
  · exact .refl fs

theorem IsTree.written_of_oneFile (tree : fs.IsTree)
    (hone : ∀ old, fs.get? (place ++ [name]) = some (.file old) → fs.OneFile (place ++ [name]))
    (hdir : fs.get? place = some .directory) (hname : Path.Proper name) (content : Bytes) :
    (fs.written (place ++ [name]) content).IsTree := by
  unfold written
  split
  · next hnone => exact tree.make hdir hname hnone _ _
  · next old hfile => exact tree.fill (hone old hfile) hfile
  · exact tree

/-- In the directory at the place is no link, and no file that has another name. -/
structure Plain (fs : FileSystem) (place : Location) : Prop where
  noLink : ∀ name target, fs.get? (place ++ [name]) ≠ some (.link target)
  oneName : ∀ name content, fs.get? (place ++ [name]) = some (.file content) →
    fs.OneName (place ++ [name])

theorem get?_written (plain : fs.Plain place) (name : String) (content : Bytes) (l : Location) :
    (fs.written (place ++ [name]) content).get? l =
      if l = place ++ [name] then Entry.overwritten content (fs.get? l) else fs.get? l := by
  unfold written
  split
  · next hnone =>
      rw [get?_make]
      by_cases hl : l = place ++ [name]
      · simp [hl, hnone, Entry.overwritten]
      · simp [hl]
  · next hfile =>
      rw [get?_fill_of_oneName (plain.oneName name _ hfile)]
      by_cases hl : l = place ++ [name]
      · simp [hl, hfile, Entry.overwritten]
      · simp [hl]
  · next e hfile hget =>
      split
      · next hl =>
          rw [hl, hget]
          cases e with
          | file old => exact absurd rfl (hfile old)
          | _ => rfl
      · rfl

section Written

variable (tree : fs.IsTree) (plain : fs.Plain place)

include plain in
theorem grows_written (name : String) (content : Bytes) :
    fs.Grows (fs.written (place ++ [name]) content) :=
  grows_written_of_oneFile (fun _ hfile => (plain.oneName name _ hfile).oneFile) content

include tree plain in
theorem IsTree.written (hdir : fs.get? place = some .directory) (hname : Path.Proper name)
    (content : Bytes) : (fs.written (place ++ [name]) content).IsTree :=
  tree.written_of_oneFile (fun _ hfile => (plain.oneName name _ hfile).oneFile) hdir hname content

include plain in
theorem OneName.written {l : Location} (h : fs.OneName l) (name : String) (content : Bytes) :
    (fs.written (place ++ [name]) content).OneName l := by
  unfold FileSystem.written
  split
  · exact h.make _ _ _
  · next hfile => exact h.fill (plain.oneName name _ hfile).oneFile hfile
  · exact h

theorem Plain.written (plain : fs.Plain place) (name : String) (content : Bytes) :
    (fs.written (place ++ [name]) content).Plain place := by
  refine ⟨fun other target hlink => ?_, fun other content' hfile => ?_⟩
  · rw [get?_written plain] at hlink
    split at hlink
    · next heq =>
        rw [heq] at hlink
        rcases Entry.overwritten_cases hlink with hold | hfile
        · exact plain.noLink name target hold
        · cases hfile
    · exact plain.noLink other target hlink
  · by_cases hother : place ++ [other] = place ++ [name] ∧ fs.get? (place ++ [name]) = none
    · rw [hother.1, FileSystem.written, hother.2]
      exact fs.oneName_make_self _ _ _
    · refine OneName.written plain ?_ name content
      rw [get?_written plain] at hfile
      split at hfile
      · next heq =>
          rw [heq] at hfile ⊢
          rcases hget : fs.get? (place ++ [name]) with _ | _ | old | _ | _ | _
          · exact absurd ⟨heq, hget⟩ hother
          · simp [hget, Entry.overwritten] at hfile
          · exact plain.oneName name old hget
          · simp [hget, Entry.overwritten] at hfile
          · simp [hget, Entry.overwritten] at hfile
          · simp [hget, Entry.overwritten] at hfile
      · exact plain.oneName other content' hfile

end Written

/-! ## Writing again -/

/-- What is accepted over something is accepted as long as that is kept. -/
theorem Accepts.grows (hgrows : fs.Grows fs') (hdir : fs.get? place = some .directory)
    (hthere : fs.get? (place ++ [name]) ≠ none) (h : fs.Accepts place name content) :
    fs'.Accepts place name content := by
  obtain ⟨e, he⟩ := Option.ne_none_iff_exists'.mp hthere
  obtain ⟨e', he', hlike⟩ := hgrows.kept he
  have hwrite : fs'.mayWrite (place ++ [name]) = fs.mayWrite (place ++ [name]) := by
    simp only [mayWrite, hgrows.rights hthere]
  refine ⟨by rw [hgrows.mayRun (by simp [hdir]), h.enter], h.size, ?_⟩
  have hentry := h.entry
  rw [he] at hentry
  rw [he', hwrite]
  cases hlike with
  | same => cases e <;> exact hentry
  | files => exact hentry

/-- What has been written is accepted again. -/
theorem Accepts.written (plain : fs.Plain place) (hdir : fs.get? place = some .directory)
    (h : fs.Accepts place name content) :
    (fs.written (place ++ [name]) content).Accepts place name content := by
  have hgrows := grows_written plain name content
  by_cases hthere : fs.get? (place ++ [name]) = none
  · refine ⟨by rw [hgrows.mayRun (by simp [hdir]), h.enter], h.size, ?_⟩
    rw [get?_written plain, if_pos rfl, hthere, FileSystem.written, hthere]
    simp [Entry.overwritten, mayWrite, rightsAt, attributesAt_make_self]
  · exact h.grows hgrows hdir hthere

/-! ## A list of writes -/

/-- What is at a place after pages have been written into a directory one after the
other, if `e?` was there before. -/
def overlay (place : Location) (pages : List (String × Bytes)) (l : Location)
    (e? : Option Entry) : Option Entry :=
  pages.foldl
    (fun e? page => if l = place ++ [page.1] then Entry.overwritten page.2 e? else e?) e?

variable {pages : List (String × Bytes)} {l : Location} {e? : Option Entry}

theorem overlay_append (before after : List (String × Bytes)) :
    overlay place (before ++ after) l e? = overlay place after l (overlay place before l e?) :=
  List.foldl_append

theorem overlay_of_ne (h : ∀ page ∈ pages, l ≠ place ++ [page.1]) :
    overlay place pages l e? = e? := by
  induction pages generalizing e? with
  | nil => rfl
  | cons page rest ih =>
      rw [overlay, List.foldl_cons, if_neg (h page (List.mem_cons_self ..))]
      exact ih fun page' hpage' => h page' (List.mem_cons_of_mem _ hpage')

theorem overwritten_overlay (content : Bytes) (pages : List (String × Bytes)) (l : Location)
    (e? : Option Entry) :
    Entry.overwritten content (overlay place pages l e?) = Entry.overwritten content e? := by
  induction pages generalizing e? with
  | nil => rfl
  | cons page rest ih =>
      rw [overlay, List.foldl_cons]
      refine (ih _).trans ?_
      split
      · rw [Entry.overwritten_overwritten]
      · rfl

/-- The last write of a name counts. -/
theorem overlay_last {before after : List (String × Bytes)} (hafter : name ∉ after.map Prod.fst) :
    overlay place (before ++ (name, content) :: after) (place ++ [name]) e? =
      Entry.overwritten content e? := by
  have hne : ∀ page ∈ after, place ++ [name] ≠ place ++ [page.1] := by
    intro page hpage heq
    refine hafter (List.mem_map.mpr ⟨page, hpage, ?_⟩)
    exact (List.singleton_inj.mp (List.append_cancel_left heq)).symm
  rw [overlay_append, overlay, List.foldl_cons, if_pos rfl]
  exact (overlay_of_ne hne).trans (overwritten_overlay ..)

/-- Pages leave what is at a place as it is, or write over it whatever it is. -/
theorem overlay_cases (place : Location) (pages : List (String × Bytes)) (l : Location) :
    (∀ e?, overlay place pages l e? = e?) ∨
      ∃ content, ∀ e?, overlay place pages l e? = Entry.overwritten content e? := by
  induction pages using List.reverseRecOn with
  | nil => exact .inl fun _ => rfl
  | append_singleton before page ih =>
      by_cases hl : l = place ++ [page.1]
      · refine .inr ⟨page.2, fun e? => ?_⟩
        rw [overlay_append, overlay, List.foldl_cons, if_pos hl]
        exact overwritten_overlay ..
      · have hlast : ∀ e?, overlay place (before ++ [page]) l e? = overlay place before l e? := by
          intro e?
          rw [overlay_append, overlay, List.foldl_cons, if_neg hl]
          rfl
        simpa only [hlast] using ih

/-- Writing the same pages once more changes nothing. -/
theorem overlay_overlay (place : Location) (pages : List (String × Bytes)) (l : Location)
    (e? : Option Entry) :
    overlay place pages l (overlay place pages l e?) = overlay place pages l e? := by
  rcases overlay_cases place pages l with h | ⟨content, h⟩
  · rw [h, h]
  · rw [h, h, Entry.overwritten_overwritten]

/-- The second file system is the first one with pages written into the directory at the
place, one after the other.  Each of them could be written there again. -/
structure Overlaid (fs fs' : FileSystem) (place : Location) (pages : List (String × Bytes)) :
    Prop where
  tree : fs'.IsTree
  plain : fs'.Plain place
  grows : fs.Grows fs'
  get? : ∀ l, fs'.get? l = overlay place pages l (fs.get? l)
  there : ∀ page ∈ pages, fs'.get? (place ++ [page.1]) ≠ none
  accepts : ∀ page ∈ pages, fs'.Accepts place page.1 page.2

theorem Overlaid.refl (tree : fs.IsTree) (plain : fs.Plain place) : Overlaid fs fs place [] :=
  ⟨tree, plain, .refl fs, fun _ => rfl, fun _ h => by simp at h, fun _ h => by simp at h⟩

/-- What is there now was there before, or is a page. -/
theorem Overlaid.get?_cases (h : Overlaid fs fs' place pages) {l : Location} {e : Entry}
    (he : fs'.get? l = some e) : fs.get? l = some e ∨ ∃ content, e = .file content := by
  rw [h.get?] at he
  rcases overlay_cases place pages l with hsame | ⟨content, hover⟩
  · rw [hsame] at he
    exact .inl he
  · rw [hover] at he
    exact (Entry.overwritten_cases he).imp_right fun hfile => ⟨content, hfile⟩

theorem Overlaid.directory_of (h : Overlaid fs fs' place pages) {l : Location}
    (hdir : fs'.get? l = some .directory) : fs.get? l = some .directory := by
  rcases h.get?_cases hdir with hold | ⟨content, hfile⟩
  · exact hold
  · cases hfile

/-- What is changed is at the place of a page. -/
theorem Overlaid.mem_of_ne {l : Location} (h : Overlaid fs fs' place pages)
    (hne : fs'.get? l ≠ fs.get? l) : ∃ page ∈ pages, l = place ++ [page.1] := by
  by_contra hnone
  refine hne ?_
  rw [h.get? l, overlay_of_ne fun page hpage heq => hnone ⟨page, hpage, heq⟩]

/-- One more page is written. -/
theorem Overlaid.written (h : Overlaid fs fs' place pages) (hdir : fs.get? place = some .directory)
    (hname : Path.Proper name) (haccepts : fs'.Accepts place name content) :
    Overlaid fs (fs'.written (place ++ [name]) content) place (pages ++ [(name, content)]) := by
  have hgrows := grows_written h.plain name content
  have hdir' := h.grows.directory hdir
  refine ⟨h.tree.written h.plain hdir' hname content, h.plain.written name content,
    h.grows.trans hgrows, fun l => ?_, fun page hpage => ?_, fun page hpage => ?_⟩
  · rw [get?_written h.plain, overlay_append, ← h.get? l]
    rfl
  · rcases List.mem_append.mp hpage with hold | hnew
    · obtain ⟨e, he⟩ := Option.ne_none_iff_exists'.mp (h.there page hold)
      obtain ⟨e', he', -⟩ := hgrows.kept he
      simp [he']
    · obtain rfl := List.mem_singleton.mp hnew
      rw [get?_written h.plain, if_pos rfl]
      rcases fs'.get? (place ++ [name]) with _ | _ | _ | _ | _ | _ <;> simp [Entry.overwritten]
  · rcases List.mem_append.mp hpage with hold | hnew
    · exact (h.accepts page hold).grows hgrows hdir' (h.there page hold)
    · obtain rfl := List.mem_singleton.mp hnew
      exact haccepts.written h.plain hdir'

/-- The pages could be written there once more. -/
def Ready (fs : FileSystem) (place : Location) (pages : List (String × Bytes)) : Prop :=
  ∀ page ∈ pages, fs.get? (place ++ [page.1]) ≠ none ∧ fs.Accepts place page.1 page.2

theorem Overlaid.ready (h : fs.Overlaid fs' place pages) : fs'.Ready place pages :=
  fun page hpage => ⟨h.there page hpage, h.accepts page hpage⟩

theorem Ready.grows (h : fs.Ready place pages) (hgrows : fs.Grows fs')
    (hdir : fs.get? place = some .directory) : fs'.Ready place pages :=
  fun page hpage => ⟨hgrows.there (h page hpage).1,
    (h page hpage).2.grows hgrows hdir (h page hpage).1⟩

theorem Ready.mono {pages' : List (String × Bytes)} (h : fs.Ready place pages)
    (hsubset : pages' ⊆ pages) : fs.Ready place pages' :=
  fun page hpage => h page (hsubset hpage)

/-! ## Directories that take every page -/

/-- New files can be made in the directory that the path leads to, and there is nothing in
it but files that can be written. -/
structure Free (fs : FileSystem) (p : Path) (place : Location) : Prop where
  tree : fs.IsTree
  leads : fs.Leads p place
  plain : fs.Plain place
  enter : fs.mayRun place = true
  change : fs.mayChange place = true
  files : ∀ name e, fs.get? (place ++ [name]) = some e →
    ∃ content, e = .file content ∧ fs.mayWrite (place ++ [name]) = true

/-- An empty directory takes every page. -/
theorem free_of_children (tree : fs.IsTree) (hleads : fs.Leads p place)
    (hchange : fs.mayChange place = true) (h : fs.children place = []) : fs.Free p place := by
  have hnone : ∀ name, fs.get? (place ++ [name]) = none :=
    fun name => get?_eq_none_of_not_mem_children (by simp [h])
  refine ⟨tree, hleads, ⟨?_, ?_⟩, ?_, hchange, ?_⟩
  · simp [hnone]
  · simp [hnone]
  · rw [mayChange, Bool.and_eq_true] at hchange
    exact hchange.2
  · simp [hnone]

theorem Free.accepts (h : fs.Free p place) (hsize : Utf8.size name ≤ maxNameSize)
    (content : Bytes) : fs.Accepts place name content := by
  refine ⟨h.enter, hsize, ?_⟩
  cases hget : fs.get? (place ++ [name]) with
  | none => exact h.change
  | some e =>
      obtain ⟨old, rfl, hwrite⟩ := h.files name e hget
      exact hwrite

/-- Every page can be written there, unless its path is too long. -/
theorem Free.exists_write (h : fs.Free p place) (hp : p.IsSettled) (hname : Path.Proper name)
    (htext : textFault? (p.child name).text = none) (hsize : Utf8.size name ≤ maxNameSize)
    (here : Location) (content : Bytes) :
    ∃ fs', fs.write here (p.child name).text content = .ok fs' :=
  ⟨_, (write_child_iff h.tree hp hname h.leads (h.plain.noLink name) here).mpr
    ⟨htext, h.accepts hsize content, rfl⟩⟩

/-- And another one after that. -/
theorem Free.write (h : fs.Free p place) (hp : p.IsSettled) (hname : Path.Proper name)
    {here : Location} (hwrite : fs.write here (p.child name).text content = .ok fs') :
    fs'.Free p place := by
  obtain ⟨-, haccepts, rfl⟩ :=
    (write_child_iff h.tree hp hname h.leads (h.plain.noLink name) here).mp hwrite
  have hdir := h.leads.get? h.tree
  have hgrows := grows_written h.plain name content
  have hrights : (fs.written (place ++ [name]) content).rightsAt place = fs.rightsAt place :=
    hgrows.rights (by simp [hdir])
  refine ⟨h.tree.written h.plain hdir hname content, h.leads.grows h.tree hgrows,
    h.plain.written name content, ?_, ?_, fun other e he => ?_⟩
  · rw [hgrows.mayRun (by simp [hdir]), h.enter]
  · have hchange := h.change
    simp only [mayChange, mayWrite, mayRun, hrights] at hchange ⊢
    exact hchange
  · rw [get?_written h.plain] at he
    split at he
    · next heq =>
        have hentry := (haccepts.written h.plain hdir).entry
        rw [get?_written h.plain, if_pos rfl] at hentry
        rw [heq] at he ⊢
        cases hget : fs.get? (place ++ [name]) with
        | none =>
            rw [hget] at he hentry
            exact ⟨content, (Option.some_inj.mp he).symm, hentry⟩
        | some old =>
            obtain ⟨bytes, rfl, -⟩ := h.files name old hget
            rw [hget] at he hentry
            exact ⟨content, (Option.some_inj.mp he).symm, hentry⟩
    · obtain ⟨bytes, rfl, hmay⟩ := h.files other e he
      refine ⟨bytes, rfl, ?_⟩
      simp only [mayWrite, hgrows.rights (show fs.get? (place ++ [other]) ≠ none by simp [he])]
      exact hmay

end FileSystem

end ComponentReference
