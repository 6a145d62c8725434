import PaladinsCat.SqlLogic
import PaladinsCat.Text

/-!
The roles of champions in the projections: the ranked one (workers/projections.rs) and the
casual one (workers/casual_performance.rs) each have a CASE of their own that looks at the text
of the roles and at the name, and the scalable ones a CASE that looks at the text alone.
-/

namespace PaladinsCat.RoleClasses

open Sql (Truth inList)

/-! ### Champions -/

structure Champion where
  name : String
  roles : Option String

/-- `column ILIKE '%part%'` -/
def ilike (column : Option String) (part : String) : Truth :=
  column.map fun text => Text.contains (Text.toLowercase text) (Text.toLowercase part)

/-! ### ROLE_NAME_SQL and role_id_sql -/

def frontlineNames : List String :=
  ["Ash", "Atlas", "Azaan", "Barik", "Fernando", "Inara", "Khan", "Makoa", "Nyx", "Raum", "Ruckus", "Terminus", "Torvald",
    "Yagorath"]

def flankNames : List String :=
  ["Androxus", "Buck", "Caspian", "Evie", "Kasumi", "Koga", "Lex", "Maeve", "Skye", "Talus", "Vatu", "VII", "Vora", "Zhin"]

def supportNames : List String :=
  ["Corvus", "Furia", "Grohk", "Grover", "Io", "Jenos", "Lillith", "Mal Damba", "Mal'Damba", "Moji", "Pip", "Rei", "Seris",
    "Ying"]

/-- The CASE of both projections, which differ in the names of the damage champions. -/
def roleNameSql (damageNames : List String) (c : Champion) : String :=
  let named (names : List String) : Truth := inList (some c.name) names
  if (((ilike c.roles "Frontline").or (ilike c.roles "Front Line")).or (named frontlineNames)).holds then "Frontline"
  else if ((ilike c.roles "Damage").or (named damageNames)).holds then "Damage"
  else if ((ilike c.roles "Flank").or (named flankNames)).holds then "Flank"
  else if ((ilike c.roles "Support").or (named supportNames)).holds then "Support"
  else (c.roles.filter (· ≠ "")).getD "Unknown"

def roleIdSql (roleName : String) : Option Nat :=
  if roleName = "Damage" then some 1
  else if roleName = "Flank" then some 2
  else if roleName = "Support" then some 3
  else if roleName = "Frontline" then some 4
  else none

namespace Projections

def damageNames : List String :=
  ["Betty La Bomba", "Betty la Bomba", "Bomb King", "Cassie", "Dredge", "Drogoz", "Imani", "Kinessa", "Lian", "Octavia",
    "Omen", "Saati", "Sha Lin", "Strix", "Tiberius", "Tyra", "Viktor", "Vivian", "Willo"]

def roleNameSql (c : Champion) : String := RoleClasses.roleNameSql damageNames c

def roleIdSql (c : Champion) : Option Nat := RoleClasses.roleIdSql (roleNameSql c)

/-- The CASE of the scalable projections and of the metric histograms. -/
def roleId (c : Champion) : Nat :=
  if (ilike c.roles "Damage").holds then 1
  else if (ilike c.roles "Flank").holds then 2
  else if (ilike c.roles "Support").holds then 3
  else if ((ilike c.roles "Frontline").or (ilike c.roles "Front Line")).holds then 4
  else 0

end Projections

namespace CasualPerformance

def damageNames : List String :=
  ["Betty La Bomba", "Betty la Bomba", "Bomb King", "Cassie", "Dredge", "Drogoz", "Imani", "Kinessa", "Lian", "Octavia",
    "Omen", "Saati", "Sha Lin", "Strix", "Tiberius", "Tyra", "Viktor", "Vivian", "Willow"]

def roleNameSql (c : Champion) : String := RoleClasses.roleNameSql damageNames c

def roleIdSql (c : Champion) : Option Nat := RoleClasses.roleIdSql (roleNameSql c)

end CasualPerformance

/-! ### Roles -/

inductive Role where
  | frontline
  | damage
  | flank
  | support
  deriving DecidableEq

namespace Role

def title : Role → String
  | .frontline => "Frontline"
  | .damage => "Damage"
  | .flank => "Flank"
  | .support => "Support"

def id : Role → Nat
  | .damage => 1
  | .flank => 2
  | .support => 3
  | .frontline => 4

/-- The order in which the CASE with the names looks for roles. -/
def order : List Role := [.frontline, .damage, .flank, .support]

/-- The roles that are looked for earlier. -/
def before : Role → List Role
  | .frontline => []
  | .damage => [.frontline]
  | .flank => [.frontline, .damage]
  | .support => [.frontline, .damage, .flank]

end Role

/-- The text of the roles names a role. -/
def names (c : Champion) : Role → Bool
  | .frontline => ((ilike c.roles "Frontline").or (ilike c.roles "Front Line")).holds
  | .damage => (ilike c.roles "Damage").holds
  | .flank => (ilike c.roles "Flank").holds
  | .support => (ilike c.roles "Support").holds

/-- The champions that a role is looked for by name. -/
def listed (damageNames : List String) : Role → List String
  | .frontline => frontlineNames
  | .damage => damageNames
  | .flank => flankNames
  | .support => supportNames

def taken (damageNames : List String) (c : Champion) (role : Role) : Bool :=
  names c role || (listed damageNames role).contains c.name

/-- The first role in the order of the CASE. -/
def classify (damageNames : List String) (c : Champion) : Option Role := Role.order.find? (taken damageNames c)

/-- The text of the roles names exactly one role. -/
def NamesOnly (c : Champion) (role : Role) : Prop := ∀ other, names c other = true ↔ other = role

/-- All projections give the champion one role. -/
structure RolesAgree (c : Champion) : Prop where
  name : Projections.roleNameSql c = CasualPerformance.roleNameSql c
  id : Projections.roleIdSql c = CasualPerformance.roleIdSql c
  scalable : ∀ role, NamesOnly c role →
    Projections.roleIdSql c = some (Projections.roleId c) ∧ CasualPerformance.roleIdSql c = some (Projections.roleId c)

section
variable {damageNames : List String} {c : Champion} {role : Role}

@[simp] theorem holds_inList (value : String) (values : List String) :
    (inList (some value) values).holds = values.contains value := by
  induction values with
  | nil => rfl
  | cons first rest ih =>
      have step : inList (some value) (first :: rest) = (Sql.equal (some value) (some first)).or (inList (some value) rest) :=
        rfl
      rw [step, Truth.holds_or, ih, Sql.holds_equal_some, List.contains_cons]
      rfl

theorem roleNameSql_eq :
    roleNameSql damageNames c =
      ((classify damageNames c).map Role.title).getD ((c.roles.filter (· ≠ "")).getD "Unknown") := by
  have front : (((ilike c.roles "Frontline").or (ilike c.roles "Front Line")).or
      (inList (some c.name) frontlineNames)).holds = taken damageNames c .frontline := by
    simp [taken, names, listed]
  have damage : ((ilike c.roles "Damage").or (inList (some c.name) damageNames)).holds = taken damageNames c .damage := by
    simp [taken, names, listed]
  have flank : ((ilike c.roles "Flank").or (inList (some c.name) flankNames)).holds = taken damageNames c .flank := by
    simp [taken, names, listed]
  have support : ((ilike c.roles "Support").or (inList (some c.name) supportNames)).holds =
      taken damageNames c .support := by
    simp [taken, names, listed]
  simp only [roleNameSql, front, damage, flank, support, classify, Role.order, List.find?_cons, List.find?_nil]
  cases taken damageNames c .frontline with
  | true => rfl
  | false =>
      cases taken damageNames c .damage with
      | true => rfl
      | false =>
          cases taken damageNames c .flank with
          | true => rfl
          | false => cases taken damageNames c .support <;> rfl

theorem classify_eq_some_iff :
    classify damageNames c = some role ↔
      taken damageNames c role = true ∧ ∀ earlier ∈ role.before, taken damageNames c earlier = false := by
  unfold classify Role.order
  simp only [List.find?_cons, List.find?_nil]
  cases front : taken damageNames c .frontline <;> cases damage : taken damageNames c .damage <;>
    cases flank : taken damageNames c .flank <;> cases support : taken damageNames c .support <;>
    cases role <;> simp [Role.before, front, damage, flank, support]

theorem classify_eq_none_iff : classify damageNames c = none ↔ ∀ role, taken damageNames c role = false := by
  unfold classify
  rw [List.find?_eq_none]
  constructor
  · intro absent role
    exact Bool.eq_false_iff.mpr (absent role (by cases role <;> decide))
  · intro absent role _
    rw [absent role]
    exact Bool.false_ne_true

/-- A text that is the title of a role names it. -/
theorem names_title (same : c.roles = some role.title) : names c role = true := by
  cases role <;> simp only [names, same, Role.title] <;> decide

theorem fallback_ne_title (absent : names c role = false) : (c.roles.filter (· ≠ "")).getD "Unknown" ≠ role.title := by
  intro same
  cases text : c.roles with
  | none =>
      rw [text] at same
      cases role <;> exact absurd same (by decide)
  | some roles =>
      rw [text] at same
      by_cases blank : roles = ""
      · subst blank
        cases role <;> exact absurd same (by decide)
      · have kept : (some roles).filter (· ≠ "") = some roles := by simp [blank]
        rw [kept, Option.getD_some] at same
        rw [names_title (text.trans (congrArg some same))] at absent
        exact Bool.noConfusion absent

theorem roleIdSql_title : RoleClasses.roleIdSql role.title = some role.id := by
  cases role <;> decide

theorem title_injective {other : Role} (same : role.title = other.title) : role = other := by
  cases role <;> cases other <;> first | rfl | exact absurd same (by decide)

theorem id_injective {other : Role} (same : role.id = other.id) : role = other := by
  cases role <;> cases other <;> first | rfl | exact absurd same (by decide)

theorem found_of_id {found : Option Role} (same : found.map Role.id = some role.id) : found = some role := by
  obtain ⟨other, rfl, equal⟩ := Option.map_eq_some_iff.mp same
  exact congrArg some (id_injective equal)

theorem roleIdSql_of_ne {text : String} (other : ∀ role : Role, text ≠ role.title) : RoleClasses.roleIdSql text = none := by
  have damage : text ≠ "Damage" := other .damage
  have flank : text ≠ "Flank" := other .flank
  have support : text ≠ "Support" := other .support
  have frontline : text ≠ "Frontline" := other .frontline
  simp only [RoleClasses.roleIdSql, damage, flank, support, frontline, if_false]

/-- The id of the CASE says which role it found. -/
theorem roleIdSql_eq : RoleClasses.roleIdSql (roleNameSql damageNames c) = (classify damageNames c).map Role.id := by
  rw [roleNameSql_eq]
  cases found : classify damageNames c with
  | some role => exact roleIdSql_title
  | none =>
      refine roleIdSql_of_ne fun role => fallback_ne_title ?_
      have absent := classify_eq_none_iff.mp found role
      exact (Bool.or_eq_false_iff.mp absent).1

theorem names_of_classify_none (found : classify damageNames c = none) : names c role = false :=
  (Bool.or_eq_false_iff.mp (classify_eq_none_iff.mp found role)).1

/-- Two of the CASEs give one name exactly if they find one role. -/
theorem roleNameSql_eq_iff {others : List String} :
    roleNameSql damageNames c = roleNameSql others c ↔ classify damageNames c = classify others c := by
  constructor
  · intro same
    rw [roleNameSql_eq, roleNameSql_eq] at same
    -- the text that is kept where no role is found is never the name of a role
    cases left : classify damageNames c with
    | none =>
        cases right : classify others c with
        | none => rfl
        | some role =>
            rw [left, right] at same
            exact absurd same (fallback_ne_title (names_of_classify_none left))
    | some role =>
        cases right : classify others c with
        | none =>
            rw [left, right] at same
            exact absurd same.symm (fallback_ne_title (names_of_classify_none right))
        | some other =>
            rw [left, right] at same
            exact congrArg some (title_injective same)
  · intro same
    rw [roleNameSql_eq, roleNameSql_eq, same]

theorem classify_front (named : names c .frontline = true) : classify damageNames c = some .frontline := by
  rw [classify_eq_some_iff]
  refine ⟨?_, fun earlier front => by cases front⟩
  rw [taken, named, Bool.true_or]

theorem classify_congr {others : List String} (same : taken damageNames c .damage = taken others c .damage) :
    classify damageNames c = classify others c := by
  unfold classify
  congr 1
  funext role
  cases role with
  | damage => exact same
  | frontline | flank | support => rfl

end

/-! ### The two lists of damage champions -/

section
variable {c : Champion} {role : Role}

/-- The champion that each of the lists spells in its own way. -/
def Respelled (c : Champion) : Prop := c.name = "Willo" ∨ c.name = "Willow"

theorem damageNames_contains (usual : ¬ Respelled c) :
    Projections.damageNames.contains c.name = CasualPerformance.damageNames.contains c.name := by
  have ranked : c.name ≠ "Willo" := fun same => usual (.inl same)
  have casual : c.name ≠ "Willow" := fun same => usual (.inr same)
  simp [Projections.damageNames, CasualPerformance.damageNames, ranked, casual]

/-- Where only one list has the name, the CASE with it finds the damage role by the name. -/
theorem named_of_same {mine others : List String} (front : frontlineNames.contains c.name = false)
    (listed_ : mine.contains c.name = true) (missing : others.contains c.name = false)
    (same : classify mine c = classify others c) : names c .frontline = true ∨ names c .damage = true := by
  cases named : names c .frontline with
  | true => exact .inl rfl
  | false =>
      -- only the frontline comes before the damage role
      have found : classify mine c = some .damage := by
        rw [classify_eq_some_iff]
        constructor
        · rw [taken, listed, listed_, Bool.or_true]
        · intro earlier before
          rw [Role.before, List.mem_singleton] at before
          rw [before, taken, listed, named, front, Bool.or_false]
      have both := (classify_eq_some_iff.mp (same ▸ found)).1
      rw [taken, listed, missing, Bool.or_false] at both
      exact .inr both

theorem classify_same_iff :
    classify Projections.damageNames c = classify CasualPerformance.damageNames c ↔
      (Respelled c → names c .frontline = true ∨ names c .damage = true) := by
  constructor
  · rintro same (willo | willow)
    · exact named_of_same (by rw [willo]; decide) (by rw [willo]; decide) (by rw [willo]; decide) same
    · exact named_of_same (by rw [willow]; decide) (by rw [willow]; decide) (by rw [willow]; decide) same.symm
  · intro named
    by_cases respelled : Respelled c
    · rcases named respelled with front | damage
      · rw [classify_front front, classify_front front]
      · apply classify_congr
        rw [taken, taken, damage, Bool.true_or, Bool.true_or]
    · apply classify_congr
      rw [taken, taken, listed, listed, damageNames_contains respelled]

/-! ### The CASE without names -/

theorem roleId_only (only : NamesOnly c role) : Projections.roleId c = role.id := by
  have named : ∀ other, names c other = decide (other = role) := fun other =>
    Bool.eq_iff_iff.mpr (by rw [only other, decide_eq_true_iff])
  have damage : (ilike c.roles "Damage").holds = decide (Role.damage = role) := named .damage
  have flank : (ilike c.roles "Flank").holds = decide (Role.flank = role) := named .flank
  have support : (ilike c.roles "Support").holds = decide (Role.support = role) := named .support
  have front : ((ilike c.roles "Frontline").or (ilike c.roles "Front Line")).holds = decide (Role.frontline = role) :=
    named .frontline
  simp only [Projections.roleId, damage, flank, support, front]
  cases role <;> decide

/-- A champion whose text names one role is given it, unless an earlier role lists the name. -/
theorem classify_only {damageNames : List String} (only : NamesOnly c role) :
    classify damageNames c = some role ↔ ∀ earlier ∈ role.before, c.name ∉ listed damageNames earlier := by
  have self : taken damageNames c role = true := by
    rw [taken, (only role).mpr rfl, Bool.true_or]
  rw [classify_eq_some_iff]
  constructor
  · rintro ⟨_, free⟩ earlier before member
    have absent := (Bool.or_eq_false_iff.mp (free earlier before)).2
    rw [List.contains_iff_mem.mpr member] at absent
    exact Bool.noConfusion absent
  · intro unlisted
    refine ⟨self, fun earlier before => ?_⟩
    have other : earlier ≠ role := by
      rintro rfl
      cases earlier <;> simp [Role.before] at before
    have unnamed : names c earlier = false := Bool.eq_false_iff.mpr fun named => other ((only earlier).mp named)
    rw [taken, unnamed, Bool.false_or, Bool.eq_false_iff]
    intro member
    exact unlisted earlier before (List.contains_iff_mem.mp member)

end

/-- The champion's name and the text of its roles do not point to different roles. -/
structure OneRole (c : Champion) : Prop where
  spelled : Respelled c → names c .frontline = true ∨ names c .damage = true
  unlisted : ∀ role, NamesOnly c role → ∀ earlier ∈ role.before,
    c.name ∉ listed Projections.damageNames earlier ∧ c.name ∉ listed CasualPerformance.damageNames earlier

theorem roles_agree_iff (c : Champion) : RolesAgree c ↔ OneRole c := by
  have ranked : Projections.roleIdSql c = (classify Projections.damageNames c).map Role.id := roleIdSql_eq
  have casual : CasualPerformance.roleIdSql c = (classify CasualPerformance.damageNames c).map Role.id := roleIdSql_eq
  constructor
  · intro agree
    refine ⟨classify_same_iff.mp (roleNameSql_eq_iff.mp agree.name), fun role only earlier before => ?_⟩
    obtain ⟨first, second⟩ := agree.scalable role only
    rw [ranked, roleId_only only] at first
    rw [casual, roleId_only only] at second
    exact ⟨(classify_only only).mp (found_of_id first) earlier before,
      (classify_only only).mp (found_of_id second) earlier before⟩
  · intro one
    have same := classify_same_iff.mpr one.spelled
    refine ⟨roleNameSql_eq_iff.mpr same, by rw [ranked, casual, same], fun role only => ?_⟩
    have first := (classify_only only).mpr fun earlier before => (one.unlisted role only earlier before).1
    have second := (classify_only only).mpr fun earlier before => (one.unlisted role only earlier before).2
    rw [ranked, casual, first, second, roleId_only only]
    exact ⟨rfl, rfl⟩

/-- The damage champion without a text of roles has a role in the ranked projection only. -/
theorem willo_has_two_roles : ¬ RolesAgree ⟨"Willo", none⟩ := by
  intro agree
  exact absurd agree.name (by decide)

end PaladinsCat.RoleClasses
