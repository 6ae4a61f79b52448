import Conform.Files.Tree
import Conform.Proofs.Assembly

/-! # Explicit schemas and those of the settings

A schema that is asked for explicitly takes the place of the one that the settings
give under the same key. Keys that only spell the same suffix are different keys
here, and it is not until both lists are one that suffixes are normalized. So the
place of a key decides which spelling is the last, and a schema of the settings
counts if it stands after all keys that are asked for.
-/

namespace Conform.Setup

open Provider

variable {known explicit : List (String × String)} {suffix : String}

/-- Explicit entries count for a suffix: one of them has a key that no known entry has, or one has
the key of the last known entry that spells the suffix. -/
def Overrides (known explicit : List (String × String)) (suffix : String) : Prop :=
  (∃ entry ∈ explicit, normalizeSuffix entry.1 = suffix ∧ entry.1 ∉ known.map (·.1)) ∨
    ∃ last, lastSpelling suffix known = some last ∧ last.1 ∈ explicit.map (·.1)

/-- The last spelling among all entries is the last new one, or else the last known one with the
value that was asked for, if any. -/
theorem lastSpelling_putAll (hknown : Entries.Distinct known) (hexplicit : Entries.Distinct explicit)
    (suffix : String) :
    lastSpelling suffix (Entries.putAll known explicit) =
      (lastSpelling suffix (explicit.filter fun entry => entry.1 ∉ known.map (·.1))).or
        ((lastSpelling suffix known).map fun entry =>
          (entry.1, (explicit.lookup entry.1).getD entry.2)) := by
  rw [Entries.putAll_eq hknown hexplicit, lastSpelling_append, lastSpelling_map]

/-- Where explicit entries spell a suffix, the last spelling is theirs exactly if they count for it.
Otherwise it is the last spelling of the known entries, whose key they do not have. -/
theorem exists_lastSpelling_putAll (hknown : Entries.Distinct known)
    (hexplicit : Entries.Distinct explicit)
    (hspelled : ∃ entry ∈ explicit, normalizeSuffix entry.1 = suffix) :
    ∃ entry, lastSpelling suffix (Entries.putAll known explicit) = some entry ∧
      ((Overrides known explicit suffix ∧ entry ∈ explicit) ∨
        (¬Overrides known explicit suffix ∧ lastSpelling suffix known = some entry ∧
          entry.1 ∉ explicit.map (·.1))) := by
  rw [lastSpelling_putAll hknown hexplicit]
  cases hnew : lastSpelling suffix (explicit.filter fun entry => entry.1 ∉ known.map (·.1)) with
  | some entry =>
      obtain ⟨hmem, hspells⟩ := of_lastSpelling hnew
      rw [List.mem_filter, decide_eq_true_eq] at hmem
      exact ⟨entry, rfl, Or.inl ⟨Or.inl ⟨entry, hmem.1, hspells, hmem.2⟩, hmem.1⟩⟩
  | none =>
      -- No explicit spelling is new, so the known entries have it and the last of theirs counts.
      have hold : ∀ entry ∈ explicit, normalizeSuffix entry.1 = suffix →
          entry.1 ∈ known.map (·.1) := by
        intro entry hentry hspells
        by_contra hfresh
        exact lastSpelling_eq_none_iff.mp hnew entry
          (List.mem_filter.mpr ⟨hentry, decide_eq_true hfresh⟩) hspells
      obtain ⟨last, hlast⟩ : ∃ last, lastSpelling suffix known = some last := by
        obtain ⟨entry, hentry, hspells⟩ := hspelled
        obtain ⟨same, hsame, hkey⟩ := List.mem_map.mp (hold entry hentry hspells)
        exact exists_lastSpelling_iff.mpr ⟨same, hsame, by rw [hkey, hspells]⟩
      rw [hlast, Option.none_or, Option.map_some]
      refine ⟨_, rfl, ?_⟩
      by_cases hkey : last.1 ∈ explicit.map (·.1)
      · refine Or.inl ⟨Or.inr ⟨last, hlast, hkey⟩, ?_⟩
        cases hvalue : explicit.lookup last.1 with
        | none => exact absurd hkey (Entries.lookup_eq_none_iff.mp hvalue)
        | some value => exact hexplicit.mem_iff_lookup.mpr hvalue
      · rw [Entries.lookup_eq_none_iff.mpr hkey]
        refine Or.inr ⟨?_, rfl, hkey⟩
        rintro (⟨entry, hentry, hspells, hfresh⟩ | ⟨other, hother, hkey'⟩)
        · exact hfresh (hold entry hentry hspells)
        · cases hlast.symm.trans hother
          exact hkey hkey'

/-- Explicit entries count unless the known ones spell the suffix in two ways. -/
theorem overrides_of_unique
    (hspelled : ∃ entry ∈ explicit, normalizeSuffix entry.1 = suffix)
    (hunique : ∀ first ∈ known, ∀ second ∈ known, normalizeSuffix first.1 = suffix →
      normalizeSuffix second.1 = suffix → first = second) :
    Overrides known explicit suffix := by
  obtain ⟨entry, hentry, hspells⟩ := hspelled
  by_cases hkey : entry.1 ∈ known.map (·.1)
  · right
    obtain ⟨same, hsame, heq⟩ := List.mem_map.mp hkey
    have hsame' : normalizeSuffix same.1 = suffix := by rw [heq, hspells]
    obtain ⟨last, hlast⟩ := exists_lastSpelling_iff.mpr ⟨same, hsame, hsame'⟩
    obtain ⟨hmem, hlast'⟩ := of_lastSpelling hlast
    refine ⟨last, hlast, ?_⟩
    rw [hunique last hmem same hsame hlast' hsame', heq]
    exact List.mem_map_of_mem hentry
  · exact Or.inl ⟨entry, hentry, hspells, hkey⟩

section Created

variable {w : Workspace} {settings : Settings}

/-- Both lists of schemas can be read and explicit keys spell the suffix of a file. Then a session
is put together, and the file gets the schema of the last spelling in both lists. That one was asked
for if explicit entries count for the suffix, as they do unless the settings spell it in two ways,
and otherwise it is the last one of the settings, whose key was not asked for. -/
theorem create_precedence (hknown : Entries.Distinct settings.providers)
    (hexplicit : Entries.Distinct explicit) (display : Display) (syntaxChecked : List String)
    (hread : ∀ entry ∈ settings.providers ++ explicit,
      ∃ text, w.text (FilePath.ofString entry.2) = .ok text) {file : FilePath}
    (hspelled : ∃ entry ∈ explicit, normalizeSuffix entry.1 = Text.lower file.suffix) :
    ∃ setup entry text,
      create w display settings explicit syntaxChecked = .ok setup ∧
      lastSpelling (Text.lower file.suffix) (schemaPaths settings explicit) = some entry ∧
      w.text (FilePath.ofString entry.2) = .ok text ∧
      Provider.first? setup.providers file = some text ∧
      ((Overrides settings.providers explicit (Text.lower file.suffix) ∧ entry ∈ explicit) ∨
        (¬Overrides settings.providers explicit (Text.lower file.suffix) ∧
          lastSpelling (Text.lower file.suffix) settings.providers = some entry ∧
          entry.1 ∉ explicit.map (·.1))) ∧
      ((∀ first ∈ settings.providers, ∀ second ∈ settings.providers,
          normalizeSuffix first.1 = Text.lower file.suffix →
          normalizeSuffix second.1 = Text.lower file.suffix → first = second) →
        entry ∈ explicit) := by
  have hpaths : ∀ entry ∈ schemaPaths settings explicit,
      ∃ text, w.text (FilePath.ofString entry.2) = .ok text := fun entry hentry =>
    hread entry (Entries.mem_putAll hentry)
  obtain ⟨providers, hproviders⟩ := exists_providersOf_iff.mpr hpaths
  obtain ⟨entry, hentry, hsource⟩ := exists_lastSpelling_putAll hknown hexplicit hspelled
  obtain ⟨text, htext⟩ := hpaths entry (of_lastSpelling hentry).1
  refine ⟨_, entry, text, map_eq_ok_iff.mpr ⟨providers, hproviders, rfl⟩, hentry, htext, ?_,
    hsource, fun hunique => ?_⟩
  · have hfirst := first?_eq hproviders file
    change lastSpelling _ (schemaPaths settings explicit) = _ at hentry
    rw [hentry, Option.bind_some, htext] at hfirst
    exact hfirst
  · rcases hsource with ⟨-, hmem⟩ | ⟨hnot, -⟩
    · exact hmem
    · exact absurd (overrides_of_unique hspelled hunique) hnot

end Created

/-! ## Schemas under two spellings -/

/-- The octets of a text in ASCII. -/
def octets (text : String) : List UInt8 := text.toList.map fun c => UInt8.ofNat c.toNat

/-- A directory with three schemas and a file without a text. -/
def schemasOnly : Workspace :=
  (Tree.directory [("w", .directory [("first.json", .file (octets "true")),
    ("second.json", .file (octets "false")), ("own.json", .file (octets "\x7b\x7d"))])]).workspace
    ⟨.root, ["w"]⟩

theorem schemasOnly_text {path : String} (h : path ∈ ["first.json", "second.json", "own.json"]) :
    ∃ text, schemasOnly.text (FilePath.ofString path) = .ok text := by
  simp only [List.mem_cons, List.not_mem_nil, or_false] at h
  rcases h with rfl | rfl | rfl
  · exact ⟨"true", by decide +kernel⟩
  · exact ⟨"false", by decide +kernel⟩
  · exact ⟨"\x7b\x7d", by decide +kernel⟩

/-- Settings with schemas for two spellings of a suffix. -/
def twice : Settings :=
  { logLevel := "WARNING"
    providers := [(".conf", "first.json"), (".CONF", "second.json")]
    syntaxChecked := [] }

/-- A file with the suffix. -/
def suffixed : FilePath := ⟨.here, ["a.Conf"]⟩

/-- The spelling of the settings that comes first, with another schema. -/
def respelled : List (String × String) := [(".conf", "own.json")]

/-- A third spelling, without the dot and with white space, comes after those of the settings. So the
schema that was asked for is the one of the file. -/
theorem create_precedence_third :
    let third := [(" Conf", "own.json")]
    Entries.Distinct twice.providers ∧ Entries.Distinct third ∧
      (∀ entry ∈ twice.providers ++ third,
        ∃ text, schemasOnly.text (FilePath.ofString entry.2) = .ok text) ∧
      (∃ entry ∈ third, normalizeSuffix entry.1 = Text.lower suffixed.suffix) ∧
      ∃ setup, create schemasOnly .silent twice third [] = .ok setup ∧
        Provider.first? setup.providers suffixed = some "\x7b\x7d" := by
  intro third
  have hknown : Entries.Distinct twice.providers := by decide
  have hexplicit : Entries.Distinct third := List.nodup_singleton _
  have hread : ∀ entry ∈ twice.providers ++ third,
      ∃ text, schemasOnly.text (FilePath.ofString entry.2) = .ok text := fun _ hentry =>
    schemasOnly_text (List.mem_map_of_mem (f := Prod.snd) hentry)
  have hspelled : ∃ entry ∈ third, normalizeSuffix entry.1 = Text.lower suffixed.suffix :=
    ⟨_, List.mem_singleton_self _, by decide +kernel⟩
  refine ⟨hknown, hexplicit, hread, hspelled, ?_⟩
  obtain ⟨setup, entry, text, hcreate, -, htext, hfirst, hsource, -⟩ :=
    create_precedence hknown hexplicit .silent [] hread hspelled
  have hcounts : Overrides twice.providers third (Text.lower suffixed.suffix) :=
    Or.inl ⟨_, List.mem_singleton_self _, by decide +kernel, by decide⟩
  obtain rfl := List.mem_singleton.mp (hsource.resolve_right fun h => h.1 hcounts).2
  have hown : schemasOnly.text (FilePath.ofString "own.json") = .ok "\x7b\x7d" := by decide +kernel
  cases hown.symm.trans htext
  exact ⟨setup, hcreate, hfirst⟩

/-- The key that was asked for keeps its place before the other spelling of the settings. So the file
gets a schema of the settings, although one was asked for its suffix. -/
theorem create_precedence_respelled :
    Entries.Distinct twice.providers ∧ Entries.Distinct respelled ∧
      (∀ entry ∈ twice.providers ++ respelled,
        ∃ text, schemasOnly.text (FilePath.ofString entry.2) = .ok text) ∧
      (∃ entry ∈ respelled, normalizeSuffix entry.1 = Text.lower suffixed.suffix) ∧
      ∃ setup, create schemasOnly .silent twice respelled [] = .ok setup ∧
        Provider.first? setup.providers suffixed = some "false" ∧
        ∀ entry ∈ respelled, schemasOnly.text (FilePath.ofString entry.2) ≠ .ok "false" := by
  have hread : ∀ entry ∈ twice.providers ++ respelled,
      ∃ text, schemasOnly.text (FilePath.ofString entry.2) = .ok text := fun _ hentry =>
    schemasOnly_text (List.mem_map_of_mem (f := Prod.snd) hentry)
  obtain ⟨providers, hproviders⟩ := exists_providersOf_iff.mpr
    fun entry hentry => hread entry (Entries.mem_putAll hentry)
  refine ⟨by decide, List.nodup_singleton _, hread,
    ⟨_, List.mem_singleton_self _, by decide +kernel⟩,
    _, map_eq_ok_iff.mpr ⟨providers, hproviders, rfl⟩, ?_, by decide +kernel⟩
  refine (first?_eq hproviders suffixed).trans ?_
  decide +kernel

end Conform.Setup
