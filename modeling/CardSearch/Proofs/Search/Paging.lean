import CardSearch.Proofs.Search.Answering
import CardSearch.Proofs.Search.Binding
import Mathlib.Algebra.Order.Floor.Div

/-!
How pages divide the results of a search. A page is fetched exactly if it is one of those that are
counted, and every result stands on one page. The offset of a page is the number of the results in
front of it, and that number is bound for every page that is fetched from a store whose counts are
signed words.
-/

namespace CardSearch.Search

open CardSearch.Query CardSearch.Sql

theorem toNat_pageCount {perPage : UInt32} (nonempty : 1 ≤ perPage) (total : UInt64) :
    (pageCount total perPage).toNat = total.toNat ⌈/⌉ perPage.toNat := by
  have positive : 1 ≤ perPage.toNat := nonempty
  have length : (max perPage 1).toUInt64.toNat = perPage.toNat := by
    rw [UInt32.toNat_toUInt64, UInt32.toNat_max]
    exact Nat.max_eq_left positive
  have whole := Nat.div_add_mod total.toNat perPage.toNat
  have rest := Nat.mod_lt total.toNat positive
  have small : total.toNat / perPage.toNat +
      (if total.toNat % perPage.toNat = 0 then 0 else 1) < 2 ^ 64 := by
    have fewer := Nat.le_mul_of_pos_left (total.toNat / perPage.toNat) positive
    have word := total.toNat_lt
    split <;> omega
  have ends : total % (max perPage 1).toUInt64 = 0 ↔ total.toNat % perPage.toNat = 0 := by
    rw [← UInt64.toNat_inj, UInt64.toNat_mod, length]
    rfl
  simp only [pageCount, UInt64.toNat_add, UInt64.toNat_div, length, ends, apply_ite UInt64.toNat,
    UInt64.toNat_zero, UInt64.toNat_one]
  rw [Nat.mod_eq_of_lt small, Nat.ceilDiv_eq_add_pred_div, eq_comm, Nat.div_eq_iff positive]
  split <;> grind

namespace Statements

/-- Whether a page has a place for a result; the results are counted from 0. -/
def Shows (statements : Statements) (index : Nat) : Prop :=
  statements.offset.toNat ≤ index ∧
    index < statements.offset.toNat + statements.perPage.toNat

instance (statements : Statements) (index : Nat) : Decidable (statements.Shows index) :=
  inferInstanceAs (Decidable (_ ∧ _))

variable {config : Config} {user : Int} {filter : Filter} {options : Options}
  {statements : Statements}

theorem page_of_ofFilter (accepted : ofFilter config user filter options = .ok statements) :
    1 ≤ options.page.toNat ∧ statements.pageNumber = options.page := by
  rw [ofFilter] at accepted
  split at accepted
  · contradiction
  next numbered =>
    obtain ⟨perPage, -, rfl⟩ := Fallible.map_eq_ok_iff.1 accepted
    have first : 1 ≤ options.page := by grind
    exact ⟨first, rfl⟩

theorem offset_lt_iff (accepted : ofFilter config user filter options = .ok statements)
    (nonempty : 1 ≤ statements.perPage) (total : UInt64) :
    statements.offset < total ↔
      options.page.toNat ≤ (pageCount total statements.perPage).toNat := by
  have positive : 0 < statements.perPage.toNat := nonempty
  have first := (page_of_ofFilter accepted).1
  rw [toNat_pageCount nonempty, UInt64.lt_iff_toNat_lt, (values_of_ofFilter accepted).2.2.2,
    ← not_le, Nat.mul_comm, ← ceilDiv_le_iff_le_mul positive]
  omega

theorem shows_iff (accepted : ofFilter config user filter options = .ok statements)
    (nonempty : 1 ≤ statements.perPage) (index : Nat) :
    statements.Shows index ↔ options.page.toNat = index / statements.perPage.toNat + 1 := by
  have positive : 0 < statements.perPage.toNat := nonempty
  have first := (page_of_ofFilter accepted).1
  have place : index / statements.perPage.toNat = options.page.toNat - 1 ↔ _ :=
    Nat.div_eq_iff positive
  rw [Shows, (values_of_ofFilter accepted).2.2.2]
  omega

theorem ofFilter_onPage (accepted : ofFilter config user filter options = .ok statements)
    {page : UInt32} (numbered : page ≠ 0) :
    ∃ other, ofFilter config user filter { options with page } = .ok other ∧
      other.count = statements.count ∧ other.perPage = statements.perPage := by
  rw [ofFilter] at accepted
  split at accepted
  · contradiction
  · obtain ⟨perPage, length, rfl⟩ := Fallible.map_eq_ok_iff.1 accepted
    rw [ofFilter, if_neg numbered]
    exact ⟨_, Fallible.map_eq_ok_iff.2 ⟨perPage, length, rfl⟩, rfl, rfl⟩

end Statements

def Request.onPage (request : Request) (page : UInt32) : Request :=
  { request with options := { request.options with page } }

section

variable {store : Store} {config : Config} {received : List Statement} {request : Request}
  {statements : Statements} {total : UInt64}

theorem Request.Puts.onPage (put : request.Puts config statements) {page : UInt32}
    (numbered : page ≠ 0) :
    ∃ other, (request.onPage page).Puts config other ∧ other.count = statements.count ∧
      other.perPage = statements.perPage := by
  obtain ⟨filter, read, -, given, built⟩ := put
  obtain ⟨other, accepted, alike⟩ := Statements.ofFilter_onPage built numbered
  exact ⟨other, ⟨filter, read, numbered, given, accepted⟩, alike⟩

theorem Request.Puts.unique (put : request.Puts config statements) {other : Statements}
    (again : request.Puts config other) : other = statements := by
  obtain ⟨filter, read, -, -, built⟩ := put
  obtain ⟨same, readAgain, -, -, builtAgain⟩ := again
  obtain rfl := Except.ok.inj (read.symm.trans readAgain)
  exact Except.ok.inj (builtAgain.symm.trans built)

theorem Request.Puts.alike (put : request.Puts config statements) {page : UInt32}
    {others : Statements} (there : (request.onPage page).Puts config others) :
    others.count = statements.count ∧ others.perPage = statements.perPage := by
  obtain ⟨filter, -, numbered, -⟩ := id there
  obtain ⟨other, again, same⟩ := put.onPage numbered
  rwa [← there.unique again]

/-- All pages are as long as the one that is asked for, so the place of a result names its page. -/
theorem Request.Puts.shows_iff (put : request.Puts config statements)
    (nonempty : 1 ≤ statements.perPage) {page : UInt32} {others : Statements}
    (there : (request.onPage page).Puts config others) (index : Nat) :
    others.Shows index ↔ page.toNat = index / statements.perPage.toNat + 1 := by
  have length := (put.alike there).2
  obtain ⟨filter, -, -, -, accepted⟩ := there
  rw [Statements.shows_iff accepted (by rwa [length]), length]
  rfl

theorem sent_of_counted (put : request.Puts config statements)
    (counted : store.count (received ++ [statements.count]) = .ok total) :
    (respond store config received request).sent =
      if statements.offset < total then [statements.count, statements.page]
      else [statements.count] := by
  obtain ⟨filter, read, -, -, built⟩ := put
  simp only [respond, read, built, counted]
  split <;> rfl

theorem page_of_counted (put : request.Puts config statements)
    (counted : store.count (received ++ [statements.count]) = .ok total) {page : Page}
    (answered : (respond store config received request).result = .ok page) :
    page.total = total ∧ page.page = request.options.page ∧
      page.perPage = statements.perPage := by
  obtain ⟨filter, read, -, -, built⟩ := put
  have number := (Statements.page_of_ofFilter built).2
  simp only [respond, read, built, counted] at answered
  split at answered
  · cases found : store.fetch (received ++ [statements.count, statements.page]) with
    | error fault => simp [found] at answered
    | ok rows =>
      simp only [found, Except.ok.injEq] at answered
      subst answered
      exact ⟨rfl, number, rfl⟩
  · cases answered
    exact ⟨rfl, number, rfl⟩

def Fetches (store : Store) (config : Config) (received : List Statement) (request : Request)
    (statements : Statements) : Prop :=
  (respond store config received request).sent = [statements.count, statements.page]

theorem fetches_iff_offset_lt (put : request.Puts config statements)
    (counted : store.count (received ++ [statements.count]) = .ok total) :
    Fetches store config received request statements ↔ statements.offset < total := by
  rw [Fetches, sent_of_counted put counted]
  split
  next before => exact iff_of_true rfl before
  next behind => exact iff_of_false (by simp) behind

/-- Of the pages of a request exactly those are fetched that are counted, and every result whose
page has a number stands on exactly one page, which is fetched. -/
theorem pages_partition_results (put : request.Puts config statements)
    (nonempty : 1 ≤ statements.perPage)
    (counted : store.count (received ++ [statements.count]) = .ok total) :
    let count := pageCount total statements.perPage
    count.toNat = total.toNat ⌈/⌉ statements.perPage.toNat ∧
      (Fetches store config received request statements ↔
        request.options.page.toNat ≤ count.toNat) ∧
      (∀ page, (respond store config received request).result = .ok page →
        page.page = request.options.page ∧ pageCount page.total page.perPage = count) ∧
      ∀ index < total.toNat, index / statements.perPage.toNat + 1 < UInt32.size →
        ∃ page others, (request.onPage page).Puts config others ∧ others.Shows index ∧
          Fetches store config received (request.onPage page) others ∧
          ∀ other more, (request.onPage other).Puts config more → more.Shows index →
            other = page := by
  obtain ⟨filter, -, -, -, built⟩ := id put
  have fetched := fetches_iff_offset_lt put counted
  rw [Statements.offset_lt_iff built nonempty] at fetched
  refine ⟨toNat_pageCount nonempty total, fetched, ?_, ?_⟩
  · intro page answered
    obtain ⟨whole, number, length⟩ := page_of_counted put counted answered
    rw [whole, length]
    exact ⟨number, rfl⟩
  · intro index inside small
    have number := UInt32.toNat_ofNat_of_lt' small
    generalize UInt32.ofNat (index / statements.perPage.toNat + 1) = page at number
    have numbered : page ≠ 0 := by
      rintro rfl
      simp at number
    obtain ⟨others, there, sameCount, -⟩ := put.onPage numbered
    have shown := (put.shows_iff nonempty there index).2 number
    have before : others.offset < total := Nat.lt_of_le_of_lt shown.1 inside
    refine ⟨page, others, there, shown, ?_, ?_⟩
    · exact (fetches_iff_offset_lt there (by rwa [sameCount])).2 before
    · intro other more thereToo shownToo
      have same := (put.shows_iff nonempty thereToo index).1 shownToo
      exact UInt32.toNat_inj.1 (same.trans number.symm)

/-- A page behind the last full one is not fetched, and the last result stands in front of it. -/
theorem pages_partition_six_results :
    let store : Store := ⟨fun _ => .ok 6, fun _ => .error (.query "gone")⟩
    let request : Request := ⟨7, "a", ⟨3, some 3, .due, .ascending⟩⟩
    ∃ statements, request.Puts {} statements ∧ 1 ≤ statements.perPage ∧
      store.count ([] ++ [statements.count]) = .ok 6 ∧
      ¬Fetches store {} [] request statements ∧
      ∃ page others, (request.onPage page).Puts {} others ∧ others.Shows 5 ∧
        Fetches store {} [] (request.onPage page) others := by
  intro store request
  obtain ⟨statements, put, length⟩ :
      ∃ statements, request.Puts {} statements ∧ statements.perPage = 3 :=
    ⟨_, ⟨.leaf (.text "a" none), by cbv, by decide, by decide, rfl⟩, rfl⟩
  have nonempty : 1 ≤ statements.perPage := by
    rw [length]
    decide
  have counted : store.count ([] ++ [statements.count]) = .ok 6 := rfl
  obtain ⟨-, fetched, -, places⟩ := pages_partition_results put nonempty counted
  rw [length] at fetched places
  have behind : ¬Fetches store {} [] request statements := by
    rw [fetched]
    decide
  obtain ⟨page, others, there, shown, asked, -⟩ := places 5 (by decide) (by decide)
  exact ⟨statements, put, nonempty, counted, behind, page, others, there, shown, asked⟩

end

namespace Statements

variable {config : Config} {user : Int} {filter : Filter} {options : Options} {perPage : UInt32}
  {statements : Statements}

theorem exists_of_pageLength (numbered : 1 ≤ options.page)
    (resolved : options.pageLength config = .ok perPage) (user : Int) (filter : Filter) :
    ∃ statements, ofFilter config user filter options = .ok statements ∧
      statements.perPage = perPage := by
  have positive : options.page ≠ 0 := by grind
  rw [ofFilter, if_neg positive, resolved]
  exact ⟨_, rfl, rfl⟩

theorem puts_of_ofFilter {query : String} (read : Filter.ofQuery query = .ok filter)
    (accepted : ofFilter config user filter options = .ok statements) :
    Request.Puts config ⟨user, query, options⟩ statements := by
  have numbered : options.page ≠ 0 := by
    intro zero
    rw [ofFilter_pageZero zero] at accepted
    cases accepted
  have given : options.perPage ≠ some 0 := by
    intro empty
    rw [ofFilter_emptyPages numbered empty] at accepted
    cases accepted
  exact ⟨filter, read, numbered, given, accepted⟩

theorem offset_of_ofFilter (accepted : ofFilter config user filter options = .ok statements) :
    ∃ place, (∃ head, statements.page.sql = head ++ " OFFSET " ++ placeholder place 0) ∧
      statements.page.params[place]? =
        some (.integer (min statements.offset.toNat (Number.twoTo 63 - 1) : Nat)) := by
  obtain ⟨countParams, pageParams, -⟩ := values_of_ofFilter accepted
  have last := congrArg List.length countParams
  rw [List.length_cons] at last
  refine ⟨statements.count.params.length + 1, ?_, ?_⟩
  · rw [(sql_of_ofFilter accepted).2, ← last, window_eq_order]
    simp only [← String.append_assoc]
    exact ⟨_, rfl⟩
  · rw [pageParams]
    simp

/-- The offset of a page is computed and reported without a loss. It is bound as it is, or as the
greatest signed word below it; a page that is fetched from a store whose count is a signed word
begins where its offset says. -/
theorem offset_exact (numbered : 1 ≤ options.page)
    (resolved : options.pageLength config = .ok perPage) (user : Int) (filter : Filter) :
    let before := (options.page - 1).toNat * perPage.toNat
    (options.page - 1).toNat + 1 = options.page.toNat ∧ before < Number.twoTo 64 ∧
      ∃ statements place, ofFilter config user filter options = .ok statements ∧
        statements.perPage = perPage ∧ statements.offset.toNat = before ∧
        (∃ head, statements.page.sql = head ++ " OFFSET " ++ placeholder place 0) ∧
        statements.page.params[place]? =
          some (.integer (min before (Number.twoTo 63 - 1) : Nat)) ∧
        ∀ store received query total, Filter.ofQuery query = .ok filter →
          store.count (received ++ [statements.count]) = .ok total →
          total.toNat ≤ Number.twoTo 63 - 1 →
          Fetches store config received ⟨user, query, options⟩ statements →
          statements.page.params[place]? = some (.integer before) := by
  intro before
  obtain ⟨statements, accepted, rfl⟩ := exists_of_pageLength numbered resolved user filter
  obtain ⟨place, last, bound⟩ := offset_of_ofFilter accepted
  have first : (options.page - 1).toNat = options.page.toNat - 1 :=
    UInt32.toNat_sub_of_le _ _ numbered
  have skipped : statements.offset.toNat = before := by
    rw [(values_of_ofFilter accepted).2.2.2, ← first]
  have small : before < Number.twoTo 64 := skipped ▸ statements.offset.toNat_lt
  rw [skipped] at bound
  refine ⟨?_, small, statements, place, accepted, rfl, skipped, last, bound, ?_⟩
  · rw [first]
    exact Nat.sub_add_cancel numbered
  · intro store received query total read counted signed fetched
    have inside := (fetches_iff_offset_lt (puts_of_ofFilter read accepted) counted).1 fetched
    have below : before < total.toNat := skipped ▸ inside
    rw [bound, Nat.min_eq_left (by omega)]

theorem offset_exact_far_and_fetched :
    let store : Store := ⟨fun _ => .ok 9223372036854775807, fun _ => .ok []⟩
    (∃ (statements : Statements) (place : Nat),
      ofFilter ⟨4294967295, 500⟩ 7 .all ⟨4294967295, none, .due, .ascending⟩ = .ok statements ∧
        statements.offset.toNat = 18446744060824649730 ∧
        statements.page.params[place]? = some (.integer 9223372036854775807)) ∧
      ∃ (statements : Statements) (place : Nat),
        Fetches store {} [] ⟨7, "a", ⟨3, some 500, .due, .ascending⟩⟩ statements ∧
          statements.page.params[place]? = some (.integer 1000) := by
  intro store
  constructor
  · obtain ⟨-, -, statements, place, accepted, -, skipped, -, bound, -⟩ :=
      @offset_exact ⟨4294967295, 500⟩ ⟨4294967295, none, .due, .ascending⟩ 4294967295 (by decide)
        rfl 7 .all
    exact ⟨statements, place, accepted, skipped, bound⟩
  · obtain ⟨-, -, statements, place, accepted, -, skipped, -, -, searched⟩ :=
      @offset_exact {} ⟨3, some 500, .due, .ascending⟩ 500 (by decide) rfl 7
        (.leaf (.text "a" none))
    have read : Filter.ofQuery "a" = .ok (.leaf (.text "a" none)) := by cbv
    have counted : store.count ([] ++ [statements.count]) = .ok 9223372036854775807 := rfl
    have inside : statements.offset < 9223372036854775807 := by
      rw [UInt64.lt_iff_toNat_lt, skipped]
      decide
    have fetched := (fetches_iff_offset_lt (puts_of_ofFilter read accepted) counted).2 inside
    exact ⟨statements, place, fetched, searched store [] "a" _ read counted (by decide) fetched⟩

end Statements

end CardSearch.Search
