import EdgeGateway.Menu
import Mathlib.Tactic.IntervalCases

/-!
# EdgeGateway.Proofs.Console.Pages

The menus of the console as a flat automaton.

* `Page`         : where the operator is: the main menu, the links, one link's actions, the apps,
  the app's actions. `Page.screens` are the menus open there.
* `Page.entries` : what a page offers, given what is registered.
* `Page.press`   : a key does what its entry says, and goes back one page if it has none.
* `Page.run`     : the keys one after another, and the commands they give.

The open menus move as the page does (`Menu.press_screens`), and a key that picks from a list picks
something that is on it (`Menu.picks`).
-/

namespace EdgeGateway

/-- What the menus depend on. -/
structure Roster where
  links : List LinkKind
  app : Bool
  deriving DecidableEq

inductive Page where
  | main
  | links
  | linkActions (kind : LinkKind)
  | apps
  | appActions
  deriving DecidableEq

inductive Entry where
  | page (p : Page)
  | command (c : ControlCommand)

/-- The place of the entry that a key stands for. No key but `1` to `9` stands for one. -/
def place? (key : Char) : Option Nat :=
  if '1' ≤ key ∧ key ≤ '9' then some (key.toNat - '1'.toNat) else none

namespace Page

def back : Page → Page
  | .main | .links | .apps => .main
  | .linkActions _ => .links
  | .appActions => .apps

def entries (r : Roster) : Page → List Entry
  | .main => .page .links :: if r.app then [.page .apps] else []
  | .links => r.links.map fun kind => .page (.linkActions kind)
  | .linkActions kind =>
    [.command (.link kind .stop), .command (.link kind .start), .command (.link kind .restart)] ++
      if 1 < r.links.length then [.command (.makeDefault kind)] else []
  | .apps => if r.app then [.page .appActions] else []
  | .appActions => [.command (.app .stop), .command (.app .start), .command (.app .restart)]

/-- Where an entry leads, and the command it gives. Without one it is back. -/
def follow (p : Page) : Option Entry → Page × Option ControlCommand
  | some (.page q) => (q, none)
  | some (.command c) => (p, some c)
  | none => (p.back, none)

def press (r : Roster) (p : Page) (key : Char) : Page × Option ControlCommand :=
  p.follow ((place? key).bind ((p.entries r)[·]?))

def run (r : Roster) : Page → List Char → Page × List ControlCommand
  | p, [] => (p, [])
  | p, key :: keys =>
    let (q, command) := p.press r key
    let (last, commands) := q.run r keys
    (last, command.toList ++ commands)

/-- The open menus, the innermost first. -/
def screens : Page → List Menu.Screen
  | .main => []
  | .links => [.links]
  | .linkActions kind => [.linkActions kind, .links]
  | .apps => [.apps]
  | .appActions => [.appActions, .apps]

theorem run_concat (r : Roster) (p : Page) (keys : List Char) (key : Char) :
    p.run r (keys ++ [key]) = (((p.run r keys).1.press r key).1,
      (p.run r keys).2 ++ ((p.run r keys).1.press r key).2.toList) := by
  induction keys generalizing p with
  | nil => simp [run]
  | cons first keys ih => simp only [List.cons_append, run, ih, List.append_assoc]

end Page

def View.roster (v : View) : Roster := ⟨v.links.map (·.kind), v.app.isSome⟩

/-! ## Keys -/

theorem char_le {c d : Char} : c ≤ d ↔ c.toNat ≤ d.toNat := UInt32.le_iff_toNat_le

theorem place?_eq_some {key : Char} {i : Nat} :
    place? key = some i ↔ i < 9 ∧ key.toNat = 49 + i := by
  have hone : '1'.toNat = 49 := rfl
  have hnine : '9'.toNat = 57 := rfl
  rw [place?, Option.ite_none_right_eq_some, Option.some.injEq, char_le, char_le]
  omega

theorem toNat_lowerKey (key : Char) : (lowerKey key).toNat =
    if 65 ≤ key.toNat ∧ key.toNat ≤ 90 then key.toNat + 32 else key.toNat := by
  have hrange : key.val ≥ 'A'.val ∧ key.val ≤ 'Z'.val ↔ 65 ≤ key.toNat ∧ key.toNat ≤ 90 :=
    and_congr UInt32.le_iff_toNat_le UInt32.le_iff_toNat_le
  unfold lowerKey Char.toLower
  split
  · rename_i h
    obtain ⟨hlow, hhigh⟩ := hrange.mp h
    rw [if_pos ⟨hlow, hhigh⟩, Char.toNat_mk, UInt32.toNat_add, Char.toNat_val]
    have hdiff : ('a'.val - 'A'.val).toNat = 32 := rfl
    omega
  · rename_i h
    rw [if_neg (hrange.not.mp h)]

/-- Letters are no digits, whatever their case. -/
theorem place?_lowerKey (key : Char) : place? (lowerKey key) = place? key := by
  ext i
  rw [place?_eq_some, place?_eq_some, toNat_lowerKey]
  split <;> omega

namespace Menu

/-- From the tenth entry on there is no digit left. -/
theorem entryKey_cases (n : Nat) : lowerKey (entryKey n) = entryKey n ∧
    ((entryKey n).isDigit = true ∧ n < 10 ∧ (entryKey n).toNat = 48 + n ∨
      entryKey n = '?' ∧ 10 ≤ n) := by
  by_cases hn : n < 10
  · interval_cases n <;> decide
  · have hkey : entryKey n = '?' := if_neg hn
    rw [hkey]
    exact ⟨by decide, .inr ⟨rfl, by omega⟩⟩

theorem exists_place (k n : Nat) :
    (∃ i, (i < 9 ∧ k = 49 + i) ∧ i < n) ↔ 49 ≤ k ∧ k ≤ 57 ∧ k < 49 + n := by
  constructor
  · rintro ⟨i, ⟨hi, rfl⟩, hin⟩
    omega
  · intro h
    exact ⟨k - 49, by omega⟩

/-- The keys of a menu with `n` numbered entries. -/
theorem isWithin_entryKey (n : Nat) (key : Char) :
    isWithin key '1' (entryKey n) = true ↔ ∃ i, place? key = some i ∧ i < n := by
  have hone : lowerKey '1' = '1' := by decide
  have hdigit : '1'.isDigit = true := rfl
  obtain ⟨hsame, hcase⟩ := entryKey_cases n
  simp only [← place?_lowerKey key, place?_eq_some, exists_place, isWithin, hone, hsame, hdigit]
  rcases hcase with ⟨hd, hn, hnat⟩ | ⟨hkey, hn⟩
  · rw [if_pos hd.symm, Bool.and_eq_true, decide_eq_true_eq, decide_eq_true_eq, char_le, char_le,
      hnat]
    change 49 ≤ _ ∧ _ ↔ _
    omega
  · have hnd : ¬ true = (entryKey n).isDigit := by rw [hkey]; decide
    rw [if_neg hnd, if_pos trivial, hkey]
    simp only [Bool.or_eq_true, Bool.and_eq_true, decide_eq_true_eq, char_le]
    change 49 ≤ _ ∧ _ ≤ 57 ∨ 97 ≤ _ ∧ _ ≤ 63 ↔ _
    omega

/-- What the menus make of a key, by its place. -/
structure Stands (key : Char) (i : Nat) : Prop where
  one : key = '1' ↔ i = 0
  four : key = '4' ↔ i = 3
  choice : choice key = i
  action : actionCommand? key = [Command.stop, .start, .restart][i]?

theorem stands_entryKey : ∀ i < 9, Stands (entryKey (i + 1)) i := by
  intro i hi
  interval_cases i <;> exact ⟨by decide, by decide, by decide, by decide⟩

theorem stands_of_place {key : Char} {i : Nat} (h : place? key = some i) :
    '1'.toNat ≤ (lowerKey key).toNat ∧ Stands (lowerKey key) i := by
  rw [← place?_lowerKey, place?_eq_some] at h
  obtain ⟨hi, hplace⟩ := h
  obtain ⟨-, ⟨-, -, hnat⟩ | ⟨-, hle⟩⟩ := entryKey_cases (i + 1)
  · have hkey : lowerKey key = entryKey (i + 1) := Char.toNat_inj.mp (by omega)
    refine ⟨?_, hkey ▸ stands_entryKey i hi⟩
    rw [hplace]
    exact Nat.le_add_right _ _
  · omega

/-! ## Presses -/

/-- The open menus move as the page does, and the command is the automaton's. -/
def Agrees (v : View) (p : Page) (key : Char) : Prop :=
  (press ⟨p.screens⟩ v key).menu = ⟨(p.press v.roster key).1.screens⟩ ∧
    (press ⟨p.screens⟩ v key).action = (p.press v.roster key).2

/-- A key is in the range of as many entries as the page has if it stands for one of them. -/
theorem within_or_back (r : Roster) (p : Page) (key : Char) :
    (∃ i, isWithin (lowerKey key) '1' (entryKey (p.entries r).length) = true ∧
      i < (p.entries r).length ∧ Stands (lowerKey key) i ∧
      p.press r key = p.follow (p.entries r)[i]?) ∨
    isWithin (lowerKey key) '1' (entryKey (p.entries r).length) = false ∧
      p.press r key = (p.back, none) := by
  rw [← Bool.not_eq_true, isWithin_entryKey, place?_lowerKey]
  cases hplace : place? key with
  | none =>
    refine .inr ⟨?_, ?_⟩
    · rintro ⟨i, hi, -⟩
      cases hi
    · rw [Page.press, hplace]
      rfl
  | some i =>
    have hpress : p.press r key = p.follow (p.entries r)[i]? := by
      rw [Page.press, hplace, Option.bind_some]
    by_cases hi : i < (p.entries r).length
    · exact .inl ⟨i, ⟨i, rfl, hi⟩, hi, (stands_of_place hplace).2, hpress⟩
    · refine .inr ⟨?_, ?_⟩
      · rintro ⟨j, hj, hlt⟩
        cases hj
        exact hi hlt
      · rw [hpress, List.getElem?_eq_none (by omega)]
        rfl

theorem agrees_main (v : View) (key : Char) : Agrees v .main key := by
  have hentries : Page.main.entries v.roster =
      .page .links :: if v.app.isSome then [.page .apps] else [] := rfl
  have hlast : (if v.app.isSome then '2' else '1') =
      entryKey (Page.main.entries v.roster).length := by
    rw [hentries]
    split <;> rfl
  unfold Agrees
  rcases within_or_back v.roster .main key with ⟨i, hin, hi, hstands, hpress⟩ | ⟨hout, hpress⟩
  · simp only [press, Page.screens, hlast, hpress, hstands.one, hin, if_true]
    rw [hentries] at hi ⊢
    match i, hi with
    | 0, _ => exact ⟨rfl, rfl⟩
    | 1, hi =>
      cases happ : v.app.isSome with
      | false => simp [happ] at hi
      | true => exact ⟨rfl, rfl⟩
    | i + 2, hi => split at hi <;> simp at hi
  · simp only [press, Page.screens, hlast, hpress, hout]
    exact ⟨rfl, rfl⟩

theorem agrees_links (v : View) (key : Char) : Agrees v .links key := by
  have hlength : (Page.links.entries v.roster).length = v.links.length := by
    simp [Page.entries, View.roster]
  unfold Agrees
  rcases within_or_back v.roster .links key with
    ⟨i, hin, hi, hstands, hpress⟩ | ⟨hout, hpress⟩
  · rw [hlength] at hin hi
    have hentry : (Page.links.entries v.roster)[i]? =
        some (.page (.linkActions v.links[i].kind)) := by
      simp [Page.entries, View.roster, hi]
    simp only [press, Page.screens, hpress, hstands.choice, hin, hentry, if_true,
      List.getElem?_eq_getElem hi]
    exact ⟨rfl, rfl⟩
  · rw [hlength] at hout
    simp only [press, Page.screens, hpress, hout]
    exact ⟨rfl, rfl⟩

theorem agrees_linkActions (v : View) (kind : LinkKind) (key : Char) :
    Agrees v (.linkActions kind) key := by
  have hentries : (Page.linkActions kind).entries v.roster =
      [.command (.link kind .stop), .command (.link kind .start), .command (.link kind .restart)] ++
        if offersDefault v then [.command (.makeDefault kind)] else [] := by
    simp [Page.entries, View.roster, offersDefault]
  have hlast : (if offersDefault v then '4' else '3') =
      entryKey ((Page.linkActions kind).entries v.roster).length := by
    rw [hentries]
    split <;> rfl
  unfold Agrees
  rcases within_or_back v.roster (.linkActions kind) key with
    ⟨i, hin, hi, hstands, hpress⟩ | ⟨hout, hpress⟩
  · simp only [press, Page.screens, hlast, hpress, hstands.four, hstands.action, hin, if_true]
    rw [hentries] at hi ⊢
    match i, hi with
    | 0, _ | 1, _ | 2, _ => exact ⟨rfl, rfl⟩
    | 3, hi =>
      cases hoff : offersDefault v with
      | false => simp [hoff] at hi
      | true => exact ⟨rfl, rfl⟩
    | i + 4, hi => exact absurd hi (by split <;> simp)
  · simp only [press, Page.screens, hlast, hpress, hout]
    exact ⟨rfl, rfl⟩

theorem agrees_apps (v : View) (key : Char) : Agrees v .apps key := by
  have hentries : Page.apps.entries v.roster =
      if v.app.isSome then [.page .appActions] else [] := rfl
  have hlength : (if v.app.isSome then 1 else 0) = (Page.apps.entries v.roster).length := by
    rw [hentries]
    split <;> rfl
  unfold Agrees
  rcases within_or_back v.roster .apps key with ⟨i, hin, hi, -, hpress⟩ | ⟨hout, hpress⟩
  · simp only [press, Page.screens, hlength, hpress, hin, Bool.true_and]
    rw [hentries] at hi ⊢
    cases happ : v.app.isSome with
    | false => simp [happ] at hi
    | true =>
      match i, hi with
      | 0, _ => exact ⟨rfl, rfl⟩
      | i + 1, hi => simp [happ] at hi
  · simp only [press, Page.screens, hlength, hpress, hout, Bool.false_and]
    exact ⟨rfl, rfl⟩

theorem agrees_appActions (v : View) (key : Char) : Agrees v .appActions key := by
  have hlast : '3' = entryKey (Page.appActions.entries v.roster).length := rfl
  unfold Agrees
  rcases within_or_back v.roster .appActions key with
    ⟨i, hin, hi, hstands, hpress⟩ | ⟨hout, hpress⟩
  · rw [← hlast] at hin
    simp only [press, Page.screens, hpress, hstands.action, hin, if_true]
    match i, hi with
    | 0, _ | 1, _ | 2, _ => exact ⟨rfl, rfl⟩
    | i + 3, hi => simp [Page.entries] at hi
  · rw [← hlast] at hout
    simp only [press, Page.screens, hpress, hout]
    exact ⟨rfl, rfl⟩

/-- What a key makes of the open menus, and the command it gives, are the automaton's. -/
theorem press_screens (v : View) (p : Page) (key : Char) : Agrees v p key := by
  cases p with
  | main => exact agrees_main v key
  | links => exact agrees_links v key
  | linkActions kind => exact agrees_linkActions v kind key
  | apps => exact agrees_apps v key
  | appActions => exact agrees_appActions v key

/-- How many things the menu lists, if it is a list. -/
def listed? (m : Menu) (v : View) : Option Nat :=
  match m.screens with
  | .links :: _ => some v.links.length
  | .apps :: _ => some (if v.app.isSome then 1 else 0)
  | _ => none

/-- A key in the range of a list picks what is on it. Counting back from the key does not go below
the first entry. -/
def Picks (m : Menu) (v : View) (key : Char) : Prop :=
  ∀ n, m.listed? v = some n → isWithin (lowerKey key) '1' (entryKey n) = true →
    '1'.toNat ≤ (lowerKey key).toNat ∧ choice (lowerKey key) < n

theorem picks (m : Menu) (v : View) (key : Char) : m.Picks v key := by
  intro n _ hin
  obtain ⟨i, hi, hlt⟩ := (isWithin_entryKey n _).mp hin
  rw [place?_lowerKey] at hi
  obtain ⟨hone, hstands⟩ := stands_of_place hi
  exact ⟨hone, hstands.choice ▸ hlt⟩

end Menu

end EdgeGateway
