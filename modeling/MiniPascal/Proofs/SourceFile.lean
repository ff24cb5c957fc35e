import MiniPascal.SourceFile
import Mathlib.Data.List.TakeWhile

/-!
# Which files are source files

A path names a source file by the extension of its last part (`SourceFile.isAccepted_iff`). Under
such a path there is a text, or an error says why there is none: `SourceFile.Holds` and
`SourceFile.Unreadable` say when, in terms of what the file system has under the path.
-/

namespace MiniPascal

namespace SourceFile

/-! ## Names -/

/-- The path names a file, behind whose name nothing else is named, and the name has the extension
of a source file, with something before it. -/
inductive Named (path : String) : Prop
  | intro {before after stem ext} :
      path.toList.splitOn '/' = before ++ (stem ++ '.' :: ext) :: after →
      (∀ part ∈ after, part = [] ∨ part = ['.']) → stem ≠ [] →
      String.ofList ext ∈ ["pas", "pp", "p"] → Named path

/-- After the last dot of a name stands its extension, unless the dot stands first. -/
theorem extension?_of_dot {stem ext : List Char} (hext : '.' ∉ ext) :
    extension? (stem ++ '.' :: ext) = if stem = [] then none else some ext := by
  have htake : ((stem ++ '.' :: ext).reverse.takeWhile (· != '.')).reverse = ext := by
    rw [List.reverse_append, List.reverse_cons, List.append_assoc, List.takeWhile_append_of_pos,
      List.singleton_append, List.takeWhile_cons_of_neg (by decide), List.append_nil,
      List.reverse_reverse]
    intro c hc
    exact bne_iff_ne.2 fun he => hext (he ▸ List.mem_reverse.1 hc)
  rw [extension?, htake]
  cases stem with
  | nil => rw [List.nil_append, List.length_cons, if_neg (Nat.lt_irrefl _), if_pos rfl]
  | cons c stem =>
    have hlong : ext.length + 1 < (c :: stem ++ '.' :: ext).length := by
      rw [List.length_append, List.length_cons, List.length_cons]
      omega
    rw [if_pos hlong, if_neg (List.cons_ne_nil _ _)]

/-- The extension of a name is what follows its last dot, if something stands before that dot. -/
theorem extension?_eq_some_iff {name ext : List Char} :
    extension? name = some ext ↔ '.' ∉ ext ∧ ∃ stem ≠ [], name = stem ++ '.' :: ext := by
  constructor
  · intro h
    by_cases hdot : '.' ∈ name.reverse
    · obtain ⟨after, before, hname, hafter⟩ := List.eq_append_cons_of_mem hdot
      obtain rfl : name = before.reverse ++ '.' :: after.reverse := by
        simpa using congrArg List.reverse hname
      rw [← List.mem_reverse] at hafter
      rw [extension?_of_dot hafter] at h
      split at h
      · cases h
      · cases h
        exact ⟨hafter, _, ‹_›, rfl⟩
    · have hall : name.reverse.takeWhile (· != '.') = name.reverse :=
        List.takeWhile_eq_self_iff.2 fun c hc => bne_iff_ne.2 fun he => hdot (he ▸ hc)
      rw [extension?, hall, List.reverse_reverse, if_neg (Nat.not_lt_of_le (Nat.le_succ _))] at h
      cases h
  · rintro ⟨hext, stem, hstem, rfl⟩
    rw [extension?_of_dot hext, if_neg hstem]

/-- The last part of a path that names something, and the parts around it. -/
theorem lastPart_eq_iff {path name : List Char} (hname : name ≠ []) :
    lastPart path = name ↔ name ≠ ['.'] ∧ ∃ before after,
      path.splitOn '/' = before ++ name :: after ∧ ∀ part ∈ after, part = [] ∨ part = ['.'] := by
  have hnothing (part : List Char) :
      ¬(part != [] && part != ['.']) = true ↔ part = [] ∨ part = ['.'] := by
    simp [Classical.or_iff_not_imp_left]
  rw [lastPart]
  constructor
  · intro h
    rcases List.eq_nil_or_concat ((path.splitOn '/').filter fun part => part != [] && part != ['.'])
      with hnil | ⟨parts, part, hparts⟩
    · rw [hnil] at h
      exact absurd h.symm hname
    · rw [hparts, List.concat_eq_append, List.getLastD_concat] at h
      rw [List.concat_eq_append, List.filter_eq_append_iff] at hparts
      obtain ⟨l, l', hpath, -, hlast⟩ := hparts
      obtain ⟨before, after, rfl, -, hpart, hafter⟩ := List.filter_eq_cons_iff.1 hlast
      subst h
      refine ⟨?_, l ++ before, after, ?_, ?_⟩
      · exact bne_iff_ne.1 (Bool.and_eq_true_iff.1 hpart).2
      · rw [hpath, List.append_assoc]
      · exact fun p hp => (hnothing p).1 (List.filter_eq_nil_iff.1 hafter p hp)
  · rintro ⟨hdot, before, after, hpath, hafter⟩
    have hkept : (name != [] && name != ['.']) = true := by simp [hname, hdot]
    have hrest : after.filter (fun part => part != [] && part != ['.']) = [] :=
      List.filter_eq_nil_iff.2 fun p hp => (hnothing p).2 (hafter p hp)
    have hparts : (name :: after).filter (fun part => part != [] && part != ['.']) = [name] := by
      rw [List.filter_cons, if_pos hkept, hrest]
    rw [hpath, List.filter_append, hparts, List.getLastD_concat]

/-- A path is accepted if it names a source file. -/
theorem isAccepted_iff {path : String} : isAccepted path = true ↔ Named path := by
  rw [isAccepted]
  constructor
  · intro h
    cases hname : extension? (lastPart path.toList) with
    | none =>
      rw [hname] at h
      cases h
    | some ext =>
      rw [hname] at h
      obtain ⟨-, stem, hstem, hlast⟩ := extension?_eq_some_iff.1 hname
      obtain ⟨-, before, after, hpath, hafter⟩ := (lastPart_eq_iff (by simp)).1 hlast
      exact ⟨hpath, hafter, hstem, List.contains_iff_mem.1 h⟩
  · rintro ⟨hpath, hafter, hstem, hext⟩
    rename_i before after stem ext
    have hdots : ∀ s ∈ extensions, '.' ∉ s.toList := by decide
    have hdot : '.' ∉ ext := by simpa using hdots _ hext
    have hne : stem ++ '.' :: ext ≠ ['.'] := by
      simp [List.append_eq_singleton_iff, hstem]
    rw [(lastPart_eq_iff (by simp)).2 ⟨hne, _, _, hpath, hafter⟩,
      extension?_eq_some_iff.2 ⟨hdot, stem, hstem, rfl⟩]
    exact List.contains_iff_mem.2 hext

/-! ## Contents -/

/-- The path names a source file, and there is a file under it that holds the text. -/
inductive Holds (path : String) : FileEntry → String → Prop
  | file {bytes source} : Named path → String.fromUTF8? bytes = some source →
      Holds path (.file bytes) source

/-- There is no text of a source file under the path; the text of an error says why. -/
inductive Unreadable (path : String) : FileEntry → String → Prop
  | missing : Unreadable path .absent
      ("Compilation error in file not found: Input file does not exist: " ++ path)
  | foreign {entry} : entry ≠ .absent → ¬Named path →
      Unreadable path entry "File read error: File must have one of the extensions: pas, pp, p"
  | directory : Named path →
      Unreadable path .directory "I/O error: Is a directory (os error 21)"
  | undecoded {bytes} : Named path → String.fromUTF8? bytes = none →
      Unreadable path (.file bytes) "I/O error: stream did not contain valid UTF-8"

section
variable {path source text : String} {entry : FileEntry}

/-- There is a text under a path, or an error says why there is none. -/
theorem holds_or_unreadable (path : String) (entry : FileEntry) :
    (∃ source, Holds path entry source) ∨ ∃ text, Unreadable path entry text := by
  by_cases hpath : Named path
  · cases entry with
    | absent => exact .inr ⟨_, .missing⟩
    | directory => exact .inr ⟨_, .directory hpath⟩
    | file bytes =>
      cases hdecoded : String.fromUTF8? bytes with
      | some source => exact .inl ⟨source, .file hpath hdecoded⟩
      | none => exact .inr ⟨_, .undecoded hpath hdecoded⟩
  · by_cases hentry : entry = .absent
    · subst hentry
      exact .inr ⟨_, .missing⟩
    · exact .inr ⟨_, .foreign hentry hpath⟩

/-- There is no error about a path under which there is a text. -/
theorem Holds.not_unreadable (h : Holds path entry source) : ¬Unreadable path entry text := by
  obtain ⟨hpath, hdecoded⟩ := h
  rintro (_ | ⟨-, hforeign⟩ | _ | ⟨-, hundecoded⟩)
  · exact hforeign hpath
  · cases hdecoded.symm.trans hundecoded

/-- Something stands under a path with a text. -/
theorem Holds.exists? (h : Holds path entry source) : entry.exists? = true := by
  cases h
  rfl

/-- A source file is read as the text that it holds. -/
theorem Holds.read_eq (h : Holds path entry source) : read path entry = .ok source := by
  obtain ⟨hpath, hdecoded⟩ := h
  rw [read.eq_def, isAccepted_iff.2 hpath]
  simp [hdecoded]

/-- Where something stands under the path that is not a source file with a text, reading it fails
with the error of the text. -/
theorem Unreadable.exists_read_eq (h : Unreadable path entry text) (hentry : entry ≠ .absent) :
    entry.exists? = true ∧ ∃ e, read path entry = .error e ∧ e.message = text := by
  cases h with
  | missing => exact absurd rfl hentry
  | foreign _ hpath =>
    refine ⟨?_, .unacceptedFile "File must have one of the extensions: pas, pp, p", ?_, rfl⟩
    · cases entry with
      | absent => exact absurd rfl hentry
      | directory | file => rfl
    · rw [read.eq_def, if_pos (by simpa using mt isAccepted_iff.1 hpath)]
      rfl
  | directory hpath =>
    refine ⟨rfl, .io "Is a directory (os error 21)", ?_, rfl⟩
    rw [read.eq_def, isAccepted_iff.2 hpath]
    rfl
  | undecoded hpath hundecoded =>
    refine ⟨rfl, .io "stream did not contain valid UTF-8", ?_, rfl⟩
    rw [read.eq_def, isAccepted_iff.2 hpath]
    simp [hundecoded]

end

end SourceFile

end MiniPascal
