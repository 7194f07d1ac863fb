import Mathlib
import Keymap.Key.Name
import Keymap.Layer
import Keymap.Modifier
import Keymap.Text.Blank

/-!
# Names

What names are made of, and that a key can be found by its canonical name.

- `Text.all_of_sameName`: names that agree up to letter case have characters of
  the same classes.
- `Text.isBlank_of_isNameChar`: none of them is a blank.
- `Key.ofName?_name`: a key is read back from its canonical name.
- `Key.ofName?_eq_none_of_dash`: no longer name has a `-`.
- `Key.name_wellFormed`, `Modifier.alias_wellFormed`, `Layer.isNameChar_of_ofName?`: the
  characters of canonical key names, of modifier aliases and of layer names.
-/

namespace Keymap

namespace Text

/-- A character of names: an ASCII letter or digit, or `_`. -/
def isNameChar (c : Char) : Bool :=
  c.isAlphanum || c == '_'

theorem isNameChar_of_isAlpha {c : Char} (h : c.isAlpha = true) : isNameChar c = true := by
  simp [isNameChar, Char.isAlphanum, h]

theorem isNameChar_of_isDigit {c : Char} (h : c.isDigit = true) : isNameChar c = true := by
  simp [isNameChar, Char.isAlphanum, h]

/-- Characters of names lie between `0` and `z`. -/
theorem toNat_of_isNameChar {c : Char} (h : isNameChar c = true) :
    48 ≤ c.toNat ∧ c.toNat ≤ 122 := by
  simp only [isNameChar, Char.isAlphanum, Char.isAlpha, Char.isUpper, Char.isLower, Char.isDigit,
    Bool.or_eq_true, Bool.and_eq_true, decide_eq_true_eq, beq_iff_eq,
    UInt32.le_iff_toNat_le] at h
  show 48 ≤ c.val.toNat ∧ c.val.toNat ≤ 122
  rcases h with ((h | h) | h) | rfl
  · exact ⟨Nat.le_trans (by decide) h.1, Nat.le_trans h.2 (by decide)⟩
  · exact ⟨Nat.le_trans (by decide) h.1, Nat.le_trans h.2 (by decide)⟩
  · exact ⟨h.1, Nat.le_trans h.2 (by decide)⟩
  · decide

/-- No printable ASCII character but the space is a blank. -/
theorem isBlank_of_ascii {c : Char} (h : 32 < c.toNat) (h' : c.toNat < 127) :
    isBlank c = false := by
  simp only [isBlank, CodeRange.covers, blankRanges, List.any_eq_false, List.mem_cons]
  rintro ⟨first, last⟩ hrange
  simp only [Bool.and_eq_true, decide_eq_true_eq]
  simp only [Prod.mk.injEq, List.not_mem_nil, or_false] at hrange
  omega

theorem isBlank_of_isNameChar {c : Char} (h : isNameChar c = true) : isBlank c = false := by
  obtain ⟨hfirst, hlast⟩ := toNat_of_isNameChar h
  exact isBlank_of_ascii (by omega) (by omega)

/-- Letter case makes no difference to being a character of names. -/
theorem isNameChar_toLower (c : Char) : isNameChar c.toLower = isNameChar c := by
  by_cases h : c.isUpper = true
  · have halpha : c.isAlpha = true := by simp [Char.isAlpha, h]
    rw [isNameChar_of_isAlpha halpha, isNameChar_of_isAlpha]
    rw [Char.isAlpha_toLower_eq_isAlpha, halpha]
  · rw [Char.toLower_eq_of_not_isUpper h]

/-- Letter case makes no difference to being a `-`. -/
theorem ne_dash_toLower (c : Char) : (c.toLower != '-') = (c != '-') := by
  by_cases h : c.isUpper = true
  · have halpha : c.isAlpha = true := by simp [Char.isAlpha, h]
    have hdash (d : Char) (hd : d.isAlpha = true) : (d != '-') = true := by
      rw [bne_iff_ne]
      rintro rfl
      exact absurd hd (by decide)
    rw [hdash c halpha, hdash c.toLower]
    rw [Char.isAlpha_toLower_eq_isAlpha, halpha]
  · rw [Char.toLower_eq_of_not_isUpper h]

/-- Names that agree up to letter case have equally many characters. -/
theorem length_of_sameName {s t : String} (h : sameName s t = true) :
    s.toList.length = t.toList.length := by
  have hfold : s.toList.map Char.toLower = t.toList.map Char.toLower := eq_of_beq h
  simpa using congrArg List.length hfold

/-- A test that does not see letter case gives the same for both names. -/
theorem all_of_sameName {test : Char → Bool} (htest : ∀ c, test c.toLower = test c)
    {s t : String} (h : sameName s t = true) : s.toList.all test = t.toList.all test := by
  have hlower (cs : List Char) : (cs.map Char.toLower).all test = cs.all test := by
    rw [List.all_map]
    exact congrArg (List.all cs) (funext htest)
  have hfold : s.toList.map Char.toLower = t.toList.map Char.toLower := eq_of_beq h
  rw [← hlower s.toList, hfold, hlower]

end Text

open Text

/-! ## Keys -/

namespace Key

/-- A key is read back from its canonical name: no key before it in the table
has that name, not even as an alias. -/
theorem ofName?_name (key : Key) : ofName? key.name = some key := by
  have hall : ∀ key ∈ all, ofName? key.name = some key := by decide +kernel
  exact hall key (mem_all key)

/-- A canonical name is not empty and consists of letters, digits and `_`. -/
theorem name_wellFormed (key : Key) :
    key.name.toList ≠ [] ∧ ∀ c ∈ key.name.toList, isNameChar c = true := by
  have hall : all.all (fun key =>
      !key.name.toList.isEmpty && key.name.toList.all isNameChar) = true := by
    decide
  have hkey := List.all_eq_true.mp hall key (mem_all key)
  simpa using hkey

/-- The only name with a `-` is the `-` itself. -/
theorem ofName?_eq_none_of_dash {text : String} (hdash : '-' ∈ text.toList)
    (hlong : 1 < text.toList.length) : ofName? text = none := by
  have hall : all.all (fun key => (key.name :: key.aliases).all fun name =>
      name.toList.all (· != '-') || name.toList.length == 1) = true := by
    decide
  refine List.find?_eq_none.mpr fun key _ hnamed => ?_
  obtain ⟨name, hname, hsame⟩ := List.any_eq_true.mp hnamed
  have hone := List.all_eq_true.mp (List.all_eq_true.mp hall key (mem_all key)) name hname
  rcases Bool.or_eq_true_iff.mp hone with hnone | hsingle
  · rw [← all_of_sameName ne_dash_toLower hsame] at hnone
    have hdash := List.all_eq_true.mp hnone '-' hdash
    simp at hdash
  · rw [← length_of_sameName hsame, beq_iff_eq] at hsingle
    omega

end Key

/-! ## Modifiers -/

namespace Modifier

/-- What stands for a modifier is one of its aliases, up to letter case. -/
theorem exists_alias_of_ofAlias? {text : String} {m : Modifier} (h : ofAlias? text = some m) :
    ∃ names name, (names, m) ∈ ofAlias?.aliases ∧ name ∈ names ∧ sameName text name = true := by
  obtain ⟨⟨names, m'⟩, hmem, hfound⟩ := List.exists_of_findSome?_eq_some h
  obtain ⟨hany, hm⟩ := Option.ite_none_right_eq_some.mp hfound
  obtain ⟨name, hname, hsame⟩ := List.any_eq_true.mp hany
  rw [Option.some.inj hm] at hmem
  exact ⟨names, name, hmem, hname, hsame⟩

/-- An alias is not empty and consists of ASCII letters. -/
theorem alias_wellFormed {text : String} {m : Modifier} (h : ofAlias? text = some m) :
    text.toList ≠ [] ∧ ∀ c ∈ text.toList, c.isAlpha = true := by
  have hall : ofAlias?.aliases.all (fun entry => entry.1.all fun name =>
      !name.toList.isEmpty && name.toList.all Char.isAlpha) = true := by
    decide
  obtain ⟨names, name, hentry, hname, hsame⟩ := exists_alias_of_ofAlias? h
  have hone := List.all_eq_true.mp (List.all_eq_true.mp hall _ hentry) name hname
  obtain ⟨hne, hletters⟩ := Bool.and_eq_true_iff.mp hone
  constructor
  · intro hempty
    have hlength := length_of_sameName hsame
    rw [hempty, List.length_nil] at hlength
    rw [List.isEmpty_iff_length_eq_zero.mpr hlength.symm] at hne
    exact Bool.noConfusion hne
  · rw [← List.all_eq_true, all_of_sameName Char.isAlpha_toLower_eq_isAlpha hsame]
    exact hletters

end Modifier

/-! ## Layers -/

namespace Layer

/-- The name of a layer consists of letters and digits. -/
theorem isNameChar_of_ofName? {text : String} {layer : Layer} (h : ofName? text = some layer) :
    ∀ c ∈ text.toList, isNameChar c = true := by
  have hall : all.all (fun layer => layer.name.toList.all isNameChar) = true := by
    decide
  have hsame : sameName text layer.name = true :=
    List.find?_some (p := fun layer : Layer => sameName text layer.name) h
  rw [← List.all_eq_true, all_of_sameName isNameChar_toLower hsame]
  exact List.all_eq_true.mp hall layer (mem_all layer)

end Layer

end Keymap
