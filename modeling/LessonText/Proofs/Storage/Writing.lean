import LessonText.Proofs.Text.Bytes
import LessonText.Storage.FileTree

/-! A file that is written holds what was written: the way there leads through directories alone,
which stay as they are. -/

namespace LessonText.FileTree

variable {files written : FileTree} {l m : Location} {e : Entry} {p : Path} {text : Text}

@[simp] theorem entry?_insert_self (files : FileTree) (l : Location) (e : Entry) :
    entry? (files.insert l e) l = some e := by
  simp [insert, entry?]

theorem entry?_insert_of_ne (h : m ≠ l) : entry? (files.insert l e) m = entry? files m := by
  have hml : (m == l) = false := beq_eq_false_iff_ne.2 h
  simp [insert, entry?, List.lookup_cons, hml]

theorem walk_insert (hl : files.isDirectoryAt l = false) {names : List Text} {k m : Location}
    (h : files.walk k names = .ok m) : (files.insert l e).walk k names = .ok m := by
  induction names generalizing k with
  | nil => exact h
  | cons name names ih =>
    rw [walk] at h ⊢
    cases hentry : entry? files k with
    | none => simp [hentry] at h
    | some entry =>
      cases entry with
      | file b => simp [hentry] at h
      | directory =>
        -- what is put in does not stand where a directory is, so the way does not lead past it
        have hne : k ≠ l := by
          rintro rfl
          simp [isDirectoryAt, hentry] at hl
        rw [hentry] at h
        rw [entry?_insert_of_ne hne, hentry]
        exact ih h

theorem locate_insert (hl : files.isDirectoryAt l = false) (h : files.locate p = .ok m) :
    (files.insert l e).locate p = .ok m := by
  rw [locate] at h ⊢
  split at h
  · contradiction
  next hzero =>
    split at h
    · contradiction
    next hempty =>
      rw [if_neg hzero, if_neg hempty]
      exact walk_insert hl h

theorem exists_locate_of_write (h : files.write p text = .ok written) :
    ∃ l, files.locate p = .ok l ∧ p.slashed = false ∧ files.isDirectoryAt l = false ∧
      written = files.insert l (.file (Utf8.encode text)) := by
  rw [write] at h
  cases hl : files.locate p with
  | error c => simp [hl, Except.bind] at h
  | ok l =>
    simp only [hl, Except.bind] at h
    split at h
    · contradiction
    next hfree =>
      rw [Bool.or_eq_true, not_or, Bool.not_eq_true, Bool.not_eq_true] at hfree
      exact ⟨l, rfl, hfree.1, hfree.2, (Except.ok.inj h).symm⟩

theorem readBytes_of_write (h : files.write p text = .ok written) :
    written.readBytes p = .ok (Utf8.encode text) := by
  obtain ⟨l, hl, hslashed, hdirectory, rfl⟩ := exists_locate_of_write h
  have hlocate : (files.insert l (.file (Utf8.encode text))).locate p = .ok l :=
    locate_insert hdirectory hl
  simp [readBytes, find, hlocate, Except.bind, hslashed]

theorem has_of_readBytes {b : ByteArray} (h : files.readBytes p = .ok b) : files.has p := by
  rw [has]
  cases hfind : files.find p with
  | error c => simp [readBytes, hfind, Except.bind] at h
  | ok entry => rfl

theorem has_of_readText (h : files.readText p = .ok text) : files.has p := by
  rw [readText] at h
  cases hbytes : files.readBytes p with
  | error c => simp [hbytes, Except.bind] at h
  | ok b => exact has_of_readBytes hbytes

theorem readText_of_readBytes (h : files.readBytes p = .ok (Utf8.encode text)) :
    files.readText p = .ok text := by
  rw [readText, h, Except.bind, Utf8.decode?_encode]

theorem readText_of_write (h : files.write p text = .ok written) :
    written.readText p = .ok text :=
  readText_of_readBytes (readBytes_of_write h)

end LessonText.FileTree
