import DataSuite.Proofs.Run.Foresight

/-!
# Titles in a locale

A title that has one text for each of some locales is shown in the language that the locale names,
else in Japanese, else as its first text, and so it is shown wherever a run or a check tells it.
What the title has for the locale itself is shown too, unless the locale is spelled differently
from the language that it names, or names none: then the text for the locale is passed over.
-/

namespace DataSuite

namespace Title

/-- The locales in which a title is wanted: the one that is set, that of the language which it
names, and the Japanese one. -/
def wantedLocales (locale : String) : List String :=
  locale :: (((Language.ofLocale? locale).map Language.name).toList ++ [Language.japanese.name])

/-- The text for the first of some locales that has one, or else the first text. -/
def textIn? (locales : List String) (texts : List (String × String)) : Option String :=
  (locales.findSome? fun locale => texts.lookup locale).or (texts.head?.map Prod.snd)

/-- The text that is wanted in a locale. -/
def wanted? (locale : String) (texts : List (String × String)) : Option String :=
  textIn? (wantedLocales locale) texts

variable {locale : String} {texts : List (String × String)}

theorem textIn?_cons (locales : List String) :
    textIn? (locale :: locales) texts = (texts.lookup locale).or (textIn? locales texts) := by
  unfold textIn?
  cases found : texts.lookup locale <;> simp [found]

theorem choose_japanese (texts : List (String × String)) :
    choose .japanese texts = (texts.lookup Language.japanese.name).getD (firstText texts) := by
  unfold choose
  cases texts.lookup Language.japanese.name <;> rfl

theorem textIn?_japanese (notEmpty : texts ≠ []) :
    textIn? [Language.japanese.name] texts = some (choose .japanese texts) := by
  obtain ⟨first, rest, rfl⟩ := List.exists_cons_of_ne_nil notEmpty
  rw [textIn?_cons, choose_japanese]
  cases ((first :: rest).lookup Language.japanese.name) <;> rfl

theorem textIn?_language
    (notEmpty : texts ≠ [])
    (language : Language) :
    textIn? [language.name, Language.japanese.name] texts = some (choose language texts) := by
  rw [textIn?_cons, textIn?_japanese notEmpty, choose_japanese, choose]
  cases texts.lookup language.name <;> rfl

/-- What is shown is wanted but for the text for the locale itself. -/
theorem resolve_localized
    (locale : String)
    (notEmpty : texts ≠ []) :
    textIn? (wantedLocales locale).tail texts =
      some ((localized texts).resolve (.ofLocale locale)) := by
  unfold wantedLocales resolve Language.ofLocale
  cases Language.ofLocale? locale with
  | none => exact textIn?_japanese notEmpty
  | some language => exact textIn?_language notEmpty language

theorem wanted?_eq_or
    (locale : String)
    (notEmpty : texts ≠ []) :
    wanted? locale texts =
      (texts.lookup locale).or (some ((localized texts).resolve (.ofLocale locale))) := by
  rw [← resolve_localized locale notEmpty, wanted?, wantedLocales, textIn?_cons, List.tail_cons]

/-- A title is shown as wanted if and only if no other text stands there for the locale itself. -/
theorem wanted?_eq_resolve_iff
    (locale : String)
    (notEmpty : texts ≠ []) :
    wanted? locale texts = some ((localized texts).resolve (.ofLocale locale)) ↔
      ∀ own, texts.lookup locale = some own →
        own = (localized texts).resolve (.ofLocale locale) := by
  rw [wanted?_eq_or locale notEmpty]
  cases texts.lookup locale <;> simp

/-- The text for a locale that is spelled as its language is shown. -/
theorem resolve_eq_of_lookup_name
    {language : Language}
    {own : String}
    (found : texts.lookup language.name = some own) :
    (localized texts).resolve (.ofLocale language.name) = own := by
  rw [Language.ofLocale_name, resolve, choose, found]

end Title

/-- Whether a text is the title of the case in some place wherever a title is told. -/
structure Session.Shows (session : Session) (place : Nat) (shown : String) : Prop where
  listed : session.titles[place]? = some shown
  checked : ∀ language, ∃ result,
    (session.suite.check language (.ofLocale session.settings.locale)).cases[place]? =
      some result ∧ result.title = shown
  /-- A run tells titles once the suite is installed. -/
  ran : ∀ (σ : Type) (backend : Backend σ) (state : σ),
    (session.installed backend state).value.1 = .ok () →
      ∃ summary result, (session.tested backend state).value = (.ok summary, .done) ∧
        summary.cases[place]? = some result ∧ result.title = shown

theorem TestCase.title_check
    (language : Language)
    (title : String)
    (test : TestCase) :
    (test.check language title).title = title := by
  unfold check
  split <;> rfl

namespace Session

/-- Every case is shown under its title in the locale. -/
theorem shows_titleOf
    {session : Session}
    {place : Nat}
    {test : TestCase}
    (found : session.suite.tests[place]? = some test) :
    session.Shows place (session.titleOf test) where
  listed := by
    rw [titles, List.getElem?_map, found]
    rfl
  checked language := by
    refine ⟨_, ?_, TestCase.title_check language _ test⟩
    rw [Suite.check, Summary.cases_ofCases, List.getElem?_map, found]
    rfl
  ran σ backend state installs := by
    obtain ⟨state', ran⟩ : ∃ state', (session.outcomes backend state)[place]? =
        some ((session.runCase test).run backend state') :=
      session.exists_state_of_getElem? backend found
    have bears := session.foretold_runCase test backend state'
    refine ⟨_, _, value_tested installs, ?_, bears.title.trans (TestCase.title_check _ _ test)⟩
    rw [Summary.cases_ofCases, List.getElem?_map, ran]
    rfl

/-- A title with a text for each of some locales is shown in the language that the locale names,
else in Japanese, else as its first text.  This is the text that is wanted in the locale if and
only if no other text stands there for the locale itself.  In particular it is wanted if there is
no text for the locale itself or if the locale is spelled as its language. -/
theorem localized_title_wanted_iff
    (session : Session)
    {place : Nat}
    {test : TestCase}
    {texts : List (String × String)}
    (found : session.suite.tests[place]? = some test)
    (localized : test.title = .localized texts)
    (notEmpty : texts ≠ []) :
    let locale := session.settings.locale
    ∃ shown, session.Shows place shown ∧
      Title.textIn? (Title.wantedLocales locale).tail texts = some shown ∧
      (Title.wanted? locale texts = some shown ↔
        ∀ own, texts.lookup locale = some own → own = shown) ∧
      ((texts.lookup locale = none ∨ ∃ language : Language, language.name = locale) →
        Title.wanted? locale texts = some shown) := by
  intro locale
  have wanted := Title.wanted?_eq_resolve_iff locale notEmpty
  have shows := shows_titleOf found
  rw [titleOf, localized] at shows
  refine ⟨_, shows, Title.resolve_localized locale notEmpty, wanted, fun plain => ?_⟩
  refine wanted.mpr fun own ownFound => ?_
  rcases plain with absent | ⟨language, spelled⟩
  · rw [absent] at ownFound
    cases ownFound
  · rw [← spelled] at ownFound ⊢
    exact (Title.resolve_eq_of_lookup_name ownFound).symm

/-- A session with one case that is titled in several locales. -/
def titled (locale : String) (texts : List (String × String)) : Session where
  suite :=
    { name := "titles"
      installations := []
      cleanups := []
      tests := [⟨.localized texts, .ok ⟨[], [.inlineQuery "select 1"], [.nothing]⟩⟩] }
  settings := ⟨locale, false⟩
  language := .english
  files := .empty

/-- In a British locale a title is shown in English, which is wanted there. -/
theorem localized_title_wanted_british :
    ∃ shown, (titled "en_GB.UTF-8" [("ja", "宿"), ("en", "Hotel")]).Shows 0 shown ∧
      shown = "Hotel" ∧
      Title.wanted? "en_GB.UTF-8" [("ja", "宿"), ("en", "Hotel")] = some shown := by
  obtain ⟨shown, shows, found, -, wanted⟩ :=
    @localized_title_wanted_iff (titled "en_GB.UTF-8" [("ja", "宿"), ("en", "Hotel")]) 0 _ _
      rfl rfl (List.cons_ne_nil _ _)
  exact ⟨shown, shows, (Option.some.inj found).symm, wanted (.inl rfl)⟩

/-- In an American locale the text for just this locale is passed over, although it is wanted. -/
theorem american_title_passed_over :
    (titled "en-US" [("ja", "宿"), ("en-US", "Hotel")]).Shows 0 "宿" ∧
      ¬ (titled "en-US" [("ja", "宿"), ("en-US", "Hotel")]).Shows 0 "Hotel" ∧
      Title.wanted? "en-US" [("ja", "宿"), ("en-US", "Hotel")] = some "Hotel" := by
  have shows : (titled "en-US" [("ja", "宿"), ("en-US", "Hotel")]).Shows 0 "宿" :=
    @shows_titleOf (titled "en-US" [("ja", "宿"), ("en-US", "Hotel")]) 0 _ rfl
  refine ⟨shows, fun other => ?_, rfl⟩
  have same := Option.some.inj (shows.listed.symm.trans other.listed)
  exact absurd same (by decide)

end Session
end DataSuite
