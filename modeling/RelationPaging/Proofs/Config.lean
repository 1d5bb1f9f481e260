import RelationPaging.Config
import RelationPaging.Proofs.LetterCase
import RelationPaging.Proofs.Toml.Assignment

/-!
# The dialect of a configuration

The name of a dialect is read in two places.  Typed by hand it is read in any letter case, and in a
configuration as it is spelled, like every other name there.  Apart from letter case the two places
agree on every name of a configuration.

`Config.dialect_iff` takes the document that makes the setting, whatever characters are in the name,
and any other document in which a reader of TOML finds this setting alone.  It leaves open what a
configuration makes of the one further spelling that can be typed by hand.
-/

namespace RelationPaging

/-! ## Spellings and names -/

namespace DialectName

/-- What can be typed by hand are the names of a configuration and one spelling more. -/
theorem spellings_eq : spellings = Config.dialectNames ++ [("ibm_db2", db2)] := rfl

end DialectName

namespace Config

variable {s t : String} {d : DialectName}

/-- The names of a configuration are in lower case. -/
theorem lower_of_lookup_dialectNames (h : dialectNames.lookup s = some d) :
    Casing.lower.apply s = s := by
  have hlower : ∀ entry ∈ dialectNames, Casing.lower.apply entry.1 = entry.1 := by decide
  obtain ⟨before, after, hnames, -⟩ := List.lookup_eq_some_iff.1 h
  exact hlower (s, d) (hnames ▸ List.mem_append_right before List.mem_cons_self)

/-- A name of a configuration can be typed by hand in any letter case. -/
theorem parse?_of_lookup_dialectNames (h : dialectNames.lookup s = some d)
    (hletters : SameLetters s t) : DialectName.parse? t = some d := by
  have hfold : Casing.lower.apply t = s := by
    rw [← Casing.apply_eq_of_sameLetters (by decide) hletters, lower_of_lookup_dialectNames h]
  rw [DialectName.parse?, hfold, DialectName.spellings_eq, List.lookup_append, h]
  rfl

/-- What is typed by hand in lower case is a name of a configuration, with one exception. -/
theorem lookup_dialectNames_eq_some_iff (hs : s ≠ "ibm_db2") :
    dialectNames.lookup s = some d ↔
      Casing.lower.apply s = s ∧ DialectName.parse? s = some d := by
  constructor
  · intro h
    exact ⟨lower_of_lookup_dialectNames h, parse?_of_lookup_dialectNames h (.refl s)⟩
  · rintro ⟨hlower, hparse⟩
    rw [DialectName.parse?, hlower, DialectName.spellings_eq, List.lookup_append] at hparse
    have hlast : [("ibm_db2", DialectName.db2)].lookup s = none := by
      rw [List.lookup_cons, beq_eq_false_iff_ne.2 hs]
      rfl
    rwa [hlast, Option.or_none] at hparse

/-! ## Documents -/

theorem ofNames?_dialect (name : String) :
    ofNames? [("dialect", some name)] =
      (dialectNames.lookup name).map fun d => { dialect := d } := by
  have hnames : ofNames? [("dialect", some name)] =
      (dialectNames.lookup name).bind fun d => some { dialect := d } :=
    rfl
  rw [hnames, Option.map_eq_bind]
  rfl

/-- A document with nothing but the name of a dialect is a configuration if the name is one. -/
theorem ofToml?_of_read? {text : String} (h : Toml.read? text = some [("dialect", .text s)]) :
    ofToml? text = (dialectNames.lookup s).map fun d => { dialect := d } := by
  rw [ofToml?, h]
  exact ofNames?_dialect s

/-- The key of the setting may stand without quotes. -/
theorem isBareKey_dialect : Toml.IsBareKey "dialect" := by
  have hbare : "dialect".toList.all Toml.isBareKeyChar = true := by decide
  exact ⟨by decide, List.all_eq_true.1 hbare⟩

/-! ## Main result -/

/-- **A configuration and a name typed by hand agree up to letter case.**  Any text `s` can be made
the name of the dialect, and the document that does so is read as that.  In whatever document it
stands, the name is accepted as `d` exactly when it is in lower case and would be read as `d` if
typed by hand, unless it is `ibm_db2`.  A name that is accepted as `d` can be typed by hand in any
letter case, and is read as `d`. -/
theorem dialect_iff (s : String) :
    Toml.read? (Toml.assignment "dialect" s) = some [("dialect", .text s)] ∧
      ∀ text, Toml.read? text = some [("dialect", .text s)] →
        (s ≠ "ibm_db2" → ∀ d, (ofToml? text).map (·.dialect) = some d ↔
          Casing.lower.apply s = s ∧ DialectName.parse? s = some d) ∧
        ∀ d, (ofToml? text).map (·.dialect) = some d →
          ∀ t, SameLetters s t → DialectName.parse? t = some d := by
  refine ⟨Toml.read?_assignment isBareKey_dialect s, fun text htext => ?_⟩
  have hdialect : (ofToml? text).map (·.dialect) = dialectNames.lookup s := by
    rw [ofToml?_of_read? htext, Option.map_map]
    exact Option.map_id'
  rw [hdialect]
  constructor
  · intro hs d
    exact lookup_dialectNames_eq_some_iff hs
  · intro d hd t hletters
    exact parse?_of_lookup_dialectNames hd hletters

/-- The name `pg` is accepted as it would be if typed by hand, and it can be typed by hand in
capital letters. -/
theorem dialect_iff_pg :
    ("pg" ≠ "ibm_db2" ∧ SameLetters "pg" "PG") ∧
      (ofToml? (Toml.assignment "dialect" "pg")).map (·.dialect) = some .postgresql ∧
      DialectName.parse? "PG" = some .postgresql := by
  have hne : "pg" ≠ "ibm_db2" := by decide
  have hletters : SameLetters "pg" "PG" := by decide
  obtain ⟨hread, hdocument⟩ := dialect_iff "pg"
  obtain ⟨hiff, htyped⟩ := hdocument _ hread
  have haccepted := (hiff hne .postgresql).2 ⟨by decide, by decide⟩
  exact ⟨⟨hne, hletters⟩, haccepted, htyped .postgresql haccepted "PG" hletters⟩

/-- A configuration does not take a name in every letter case in which it can be typed by hand. -/
theorem not_forall_dialect_iff_parse? :
    ¬ ∀ s d, (ofToml? (Toml.assignment "dialect" s)).map (·.dialect) = some d ↔
      DialectName.parse? s = some d := by
  intro h
  have haccepted := (h "MySQL" .mysql).2 (by decide)
  have hrefused : ofToml? (Toml.assignment "dialect" "MySQL") = none := by
    rw [ofToml?_of_read? (Toml.read?_assignment isBareKey_dialect "MySQL")]
    rfl
  rw [hrefused] at haccepted
  cases haccepted

end Config

end RelationPaging
