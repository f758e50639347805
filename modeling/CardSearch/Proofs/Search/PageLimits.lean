import CardSearch.Proofs.Search.Binding
import CardSearch.Search.Settings

/-!
How long the pages of a service are. A length that a request names is cut to the greatest one of the
service, but the default length is taken as it is. So the limits hold of every request exactly if
they hold of the default length, and a configuration that gives only the greatest length may break
them.
-/

namespace CardSearch.Search

def Config.Permits (config : Config) (length : UInt32) : Prop :=
  1 ≤ length ∧ length ≤ config.maxPerPage

instance (config : Config) (length : UInt32) : Decidable (config.Permits length) :=
  inferInstanceAs (Decidable (_ ∧ _))

namespace Options

variable {config : Config} {options : Options} {length perPage : UInt32}

theorem pageLength_of_named (named : options.perPage = some length)
    (accepted : options.pageLength config = .ok perPage) :
    1 ≤ length ∧ perPage = min length config.maxPerPage := by
  simp only [pageLength, named] at accepted
  split at accepted
  next => cases accepted
  next nonempty =>
    cases accepted
    have positive : 1 ≤ length := by grind
    exact ⟨positive, rfl⟩

theorem permits_of_named (named : options.perPage = some length)
    (accepted : options.pageLength config = .ok perPage) :
    config.Permits perPage ↔ 1 ≤ config.maxPerPage := by
  obtain ⟨positive, rfl⟩ := pageLength_of_named named accepted
  have cut : min length config.maxPerPage ≤ config.maxPerPage := Std.min_le_right
  rw [Config.Permits, Std.le_min_iff]
  exact ⟨fun within => within.1.2, fun some => ⟨⟨positive, some⟩, cut⟩⟩

theorem pageLength_of_unnamed (unnamed : options.perPage = none) :
    options.pageLength config = .ok config.defaultPerPage := by
  rw [pageLength, unnamed]

theorem permits_of_default (within : config.Permits config.defaultPerPage)
    (accepted : options.pageLength config = .ok perPage) : config.Permits perPage := by
  cases named : options.perPage with
  | none =>
    cases (pageLength_of_unnamed named).symm.trans accepted
    exact within
  | some length =>
    obtain ⟨positive, below⟩ := within
    exact (permits_of_named named accepted).2 (Std.le_trans positive below)

end Options

namespace Statements

open CardSearch.Query

theorem limit_of_ofFilter {config : Config} {user : Int} {filter : Filter} {options : Options}
    {statements : Statements} (accepted : ofFilter config user filter options = .ok statements) :
    statements.page.params[statements.count.params.length]? =
      some (.integer statements.perPage.toNat) := by
  rw [(values_of_ofFilter accepted).2.1]
  simp

/-- The limits hold of all requests of a service exactly if they hold of its default length. They
hold of every request that names a length, if any length is permitted. -/
theorem permits_all_iff_default (config : Config) :
    (∀ user filter options statements, ofFilter config user filter options = .ok statements →
      statements.page.params[statements.count.params.length]? =
        some (.integer statements.perPage.toNat) ∧
      (options.perPage = none → statements.perPage = config.defaultPerPage) ∧
      ∀ length ∈ options.perPage, statements.perPage = min length config.maxPerPage ∧
        (config.Permits statements.perPage ↔ 1 ≤ config.maxPerPage)) ∧
    ((∀ user filter options statements, ofFilter config user filter options = .ok statements →
      config.Permits statements.perPage) ↔ config.Permits config.defaultPerPage) := by
  constructor
  · intro user filter options statements accepted
    have length := (values_of_ofFilter accepted).2.2.1
    refine ⟨limit_of_ofFilter accepted, ?_, ?_⟩
    · intro unnamed
      exact Except.ok.inj (length.symm.trans (Options.pageLength_of_unnamed unnamed))
    · intro asked named
      exact ⟨(Options.pageLength_of_named named length).2, Options.permits_of_named named length⟩
  · constructor
    · intro every
      exact every 1 .all {} _ rfl
    · intro within user filter options statements accepted
      exact Options.permits_of_default within (values_of_ofFilter accepted).2.2.1

theorem permits_longest_page :
    ∃ statements, ofFilter ⟨25, 100⟩ 7 .all ⟨3, some 4294967295, .due, .ascending⟩ =
        .ok statements ∧
      statements.perPage = 100 ∧ Config.Permits ⟨25, 100⟩ statements.perPage ∧
      statements.page.params[statements.count.params.length]? = some (.integer 100) := by
  refine ⟨_, rfl, ?_⟩
  obtain ⟨requests, limits⟩ := permits_all_iff_default ⟨25, 100⟩
  obtain ⟨limit, -, named⟩ :=
    requests 7 .all ⟨3, some 4294967295, .due, .ascending⟩ _ rfl
  have cut := (named 4294967295 rfl).1
  have within := limits.2 (by decide) 7 .all ⟨3, some 4294967295, .due, .ascending⟩ _ rfl
  exact ⟨cut, within, limit⟩

theorem default_beyond_limit :
    ∃ config statements, Config.read? "\x7b\"max_per_page\": 10\x7d" = some config ∧
      ofFilter config 1 (.leaf (.text "a" none)) {} = .ok statements ∧
      ¬(1 ≤ statements.perPage ∧ statements.perPage ≤ config.maxPerPage) :=
  ⟨⟨50, 10⟩, _, by decide +kernel, rfl, by decide⟩

end Statements

end CardSearch.Search
