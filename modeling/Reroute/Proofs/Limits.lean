import Reroute.Proofs.Arrangement
import Reroute.Proofs.LastEdit
import Reroute.Proofs.Numeral

/-!
Numbers at their limits.  A delay or a status is ordered by a numeral of any length whose value is
positive and within the limit of its command, and all other arguments order nothing.  The main
statement: of the numbers that lines order, the last delay is the delay of the request, through
the digits it is stored as, and the last status is the response's if it may be sent.
-/
namespace Reroute

namespace Modifier

/-- The greatest number that a command takes, if it takes numbers. -/
def Command.limit? : Command → Option Nat
  | .delay => some 18446744073709551615
  | .statusCode => some 65535
  | _ => none

/-- An argument with an effect: digits behind one plus sign at most, of a positive value within
the limit. -/
def IsEffective (limit : Nat) (argument : Text) (n : Nat) : Prop :=
  ∃ digits, (argument = digits ∨ argument = '+' :: digits) ∧ digits ≠ [] ∧
    (∀ d ∈ digits, d.isDigit = true) ∧ Numeral.value digits = n ∧ 1 ≤ n ∧ n ≤ limit

/-- A line orders a number by a command. -/
def Orders (command : Command) (line : Text) (n : Nat) : Prop :=
  ∃ rest limit, line = '$' :: rest ∧ Command.ofWord? (commandWord rest) = some command ∧
    command.limit? = some limit ∧ IsEffective limit (argument rest) n

/-- The last of the numbers that lines order by a command. -/
def LastOrder (command : Command) (lines : List Text) (n : Nat) : Prop :=
  ∃ above line below, lines = above ++ line :: below ∧ Orders command line n ∧
    ∀ later ∈ below, ∀ m, ¬Orders command later m

/-- The number that a modifier carries for a command. -/
def number? (command : Command) : Modifier → Option Nat
  | .setDelay millis => if command = .delay then some millis else none
  | .setStatus code => if command = .statusCode then some code else none
  | _ => none

section Line

variable {limit n : Nat} {argument line : Text} {command other : Command}

theorem positive?_eq_some_iff :
    positive? limit argument = some n ↔ IsEffective limit argument n := by
  simp only [positive?, Option.filter_eq_some_iff, Numeral.read?_eq_some_iff,
    Numeral.digits?_eq_some_iff, decide_eq_true_eq]
  constructor
  · rintro ⟨⟨digits, hargument, hne, hdigits, hbound, rfl⟩, hpositive⟩
    exact ⟨digits, hargument, hne, hdigits, rfl, Nat.pos_of_ne_zero hpositive, hbound⟩
  · rintro ⟨digits, hargument, hne, hdigits, rfl, hpositive, hbound⟩
    exact ⟨⟨digits, hargument, hne, hdigits, hbound, rfl⟩, Nat.ne_of_gt hpositive⟩

/-- The modifiers that carry numbers are those of the commands that take them. -/
theorem number?_ofCommand :
    (ofCommand argument command).bind (number? other) =
      if command = other then command.limit?.bind fun limit => positive? limit argument
      else none := by
  cases command with
  | statusCode =>
      cases hread : positive? 65535 argument <;>
        simp [ofCommand, Numeral.maxWord16, hread, number?, Command.limit?, eq_comm]
  | delay =>
      cases hread : positive? 18446744073709551615 argument <;>
        simp [ofCommand, Numeral.maxWord64, hread, number?, Command.limit?, eq_comm]
  | _ => simp [ofCommand, Command.limit?, number?]

/-- A line carries a number for a command exactly where it orders it. -/
theorem number?_modifier?_iff :
    (RulesFile.modifier? line).bind (number? command) = some n ↔ Orders command line n := by
  simp only [Option.bind_eq_some_iff, RulesFile.modifier?_eq_some_iff, compile_eq_ok_iff]
  constructor
  · rintro ⟨modifier, ⟨rest, rfl, first, hword, hmodifier⟩, hnumber⟩
    have hread : (ofCommand (Modifier.argument rest) first).bind (number? command) = some n := by
      rw [hmodifier, Option.bind_some, hnumber]
    rw [number?_ofCommand, Option.ite_none_right_eq_some, Option.bind_eq_some_iff] at hread
    obtain ⟨rfl, limit, hlimit, hpositive⟩ := hread
    exact ⟨rest, limit, rfl, hword, hlimit, positive?_eq_some_iff.mp hpositive⟩
  · rintro ⟨rest, limit, rfl, hword, hlimit, heffective⟩
    have hread : (ofCommand (Modifier.argument rest) command).bind (number? command) = some n := by
      rw [number?_ofCommand, if_pos rfl, hlimit, Option.bind_some]
      exact positive?_eq_some_iff.mpr heffective
    obtain ⟨modifier, hmodifier, hnumber⟩ := Option.bind_eq_some_iff.mp hread
    exact ⟨modifier, ⟨rest, rfl, command, hword, hmodifier⟩, hnumber⟩

theorem ofCommand_of_positive?_none (hlimit : command.limit? = some limit)
    (hnone : positive? limit argument = none) : ofCommand argument command = none := by
  cases command with
  | statusCode =>
      obtain rfl := Option.some.inj hlimit
      exact congrArg (Option.map setStatus) hnone
  | delay =>
      obtain rfl := Option.some.inj hlimit
      exact congrArg (Option.map setDelay) hnone
  | _ => exact nomatch hlimit

/-- A line of a command for numbers that orders none has no modifier. -/
theorem modifier?_of_not_orders (hword : Command.ofWord? (commandWord line) = some command)
    (hlimit : command.limit? = some limit) (hnone : ∀ n, ¬Orders command ('$' :: line) n) :
    RulesFile.modifier? ('$' :: line) = none := by
  have hread : positive? limit (Modifier.argument line) = none := by
    rw [Option.eq_none_iff_forall_ne_some]
    intro n hpositive
    exact hnone n ⟨line, limit, rfl, hword, hlimit, positive?_eq_some_iff.mp hpositive⟩
  have hcompile : compile line = .ok none :=
    compile_eq_ok_iff.mpr ⟨command, hword, ofCommand_of_positive?_none hlimit hread⟩
  rw [RulesFile.modifier?_dollar, hcompile]
  rfl

end Line

/-! ### Lines in a row -/

section Row

variable {lines : List Text} {command : Command} {n : Nat}

/-- The last entry that has a value is the last one behind which none has. -/
theorem getLast?_filterMap_eq_some_iff {α β : Type} {value? : α → Option β} {entries : List α}
    {value : β} :
    (entries.filterMap value?).getLast? = some value ↔
      ∃ above entry below, entries = above ++ entry :: below ∧ value? entry = some value ∧
        ∀ later ∈ below, value? later = none := by
  rw [List.getLast?_filterMap, List.findSome?_eq_some_iff]
  constructor
  · rintro ⟨below, entry, above, hentries, hvalue, hbelow⟩
    refine ⟨above.reverse, entry, below.reverse, ?_, hvalue, by simpa using hbelow⟩
    have htwice := congrArg List.reverse hentries
    simpa using htwice
  · rintro ⟨above, entry, below, rfl, hvalue, hbelow⟩
    exact ⟨below.reverse, entry, above.reverse, by simp, hvalue, by simpa using hbelow⟩

theorem not_orders_iff {line : Text} :
    (∀ m, ¬Orders command line m) ↔
      (RulesFile.modifier? line).bind (number? command) = none := by
  rw [Option.eq_none_iff_forall_ne_some]
  exact forall_congr' fun m => not_congr number?_modifier?_iff.symm

theorem filterMap_number?_modifiersOf (command : Command) (lines : List Text) :
    (RulesFile.modifiersOf lines).filterMap (number? command) =
      lines.filterMap fun line => (RulesFile.modifier? line).bind (number? command) :=
  List.filterMap_filterMap

theorem getLast?_number?_modifiersOf :
    ((RulesFile.modifiersOf lines).filterMap (number? command)).getLast? = some n ↔
      LastOrder command lines n := by
  rw [filterMap_number?_modifiersOf, getLast?_filterMap_eq_some_iff]
  simp only [number?_modifier?_iff, ← not_orders_iff, LastOrder]

theorem filterMap_number?_eq_nil (hnone : ∀ line ∈ lines, ∀ m, ¬Orders command line m) :
    (RulesFile.modifiersOf lines).filterMap (number? command) = [] := by
  rw [filterMap_number?_modifiersOf, List.filterMap_eq_nil_iff]
  exact fun line hline => not_orders_iff.mp (hnone line hline)

end Row

theorem status?_eq_number? (modifier : Modifier) :
    modifier.status? = modifier.number? .statusCode := by
  cases modifier <;> rfl

end Modifier

namespace Request

theorem get?_delayKey_apply (request : Request) (modifier : Modifier) :
    (modifier.apply request).get? delayKey =
      ((modifier.number? .delay).map Numeral.render).or (request.get? delayKey) := by
  rw [get?, Modifier.apply_store]
  cases modifier with
  | setDelay millis => simp [Modifier.stored?, Modifier.number?, Store.get?_set]
  | setDocumentRoot root =>
      have hother : delayKey ≠ documentRootKey := by decide
      simp [Modifier.stored?, Modifier.number?, Store.get?_set, hother, get?]
  | _ => rfl

theorem get?_delayKey_modify (request : Request) (modifiers : List Modifier) :
    (request.modify modifiers).get? delayKey =
      ((modifiers.filterMap (Modifier.number? .delay)).getLast?.map Numeral.render).or
        (request.get? delayKey) := by
  rw [← List.getLast?_map, List.map_filterMap]
  exact modify_last (fun left => left.get? delayKey) get?_delayKey_apply request modifiers

theorem delay?_modify {request : Request} (hdelay : request.delay? = none) (lines : List Text)
    (n : Nat) :
    (request.modify (RulesFile.modifiersOf lines)).delay? = some n ↔
      Modifier.LastOrder .delay lines n := by
  rw [← Modifier.getLast?_number?_modifiersOf, delay?, get?_delayKey_modify]
  cases hlast : ((RulesFile.modifiersOf lines).filterMap (Modifier.number? .delay)).getLast? with
  | none =>
      rw [Option.map_none, Option.none_or]
      change request.delay? = some n ↔ none = some n
      rw [hdelay]
  | some last =>
      obtain ⟨above, line, below, -, ⟨rest, limit, -, -, hlimit, digits, -, -, -, -, hpositive,
        hbound⟩, -⟩ := Modifier.getLast?_number?_modifiersOf.mp hlast
      obtain rfl := Option.some.inj hlimit
      -- What was ordered is within the limit, so its digits in the store are read back.
      have hread : Numeral.read? Numeral.maxWord64 (Numeral.render last) = some last :=
        Numeral.read?_render hbound
      have hpos : 0 < last := hpositive
      rw [Option.map_some, Option.some_or, Option.bind_some, hread, Option.filter_some,
        if_pos (decide_eq_true hpos)]

theorem status_modify_lines {request : Request} (hstatus : request.status = none)
    (lines : List Text) :
    (request.modify (RulesFile.modifiersOf lines)).status =
      ((RulesFile.modifiersOf lines).filterMap (Modifier.number? .statusCode)).getLast? := by
  rw [status_modify, hstatus, Option.or_none]
  exact congrArg List.getLast? (List.filterMap_congr fun modifier _ => modifier.status?_eq_number?)

open Modifier in
/-- Of lines that run on a request without a delay or a status, the last that orders a delay
decides on it, and there is none where no line orders one.  A response gets the last status that
a line orders, if it may be sent, and otherwise keeps its own.  A line of either command that
orders nothing might as well not be there. -/
theorem modify_orders {request : Request} (hdelay : request.delay? = none)
    (hstatus : request.status = none) (lines : List Text) :
    let left := request.modify (RulesFile.modifiersOf lines)
    ((∀ n, left.delay? = some n ↔ LastOrder .delay lines n) ∧
      ((∀ line ∈ lines, ∀ n, ¬Orders .delay line n) → left.delay? = none)) ∧
    (∀ response : Response,
      (∀ n, LastOrder .statusCode lines n →
        (left.respond response).status = if 100 ≤ n ∧ n ≤ 999 then n else response.status) ∧
      ((∀ line ∈ lines, ∀ n, ¬Orders .statusCode line n) →
        (left.respond response).status = response.status)) ∧
    ∀ above rest below command limit, lines = above ++ ('$' :: rest) :: below →
      Command.ofWord? (commandWord rest) = some command → command.limit? = some limit →
        (∀ n, ¬Orders command ('$' :: rest) n) →
          left = request.modify (RulesFile.modifiersOf (above ++ below)) := by
  intro left
  refine ⟨⟨delay?_modify hdelay lines, ?noDelay⟩, fun response => ⟨?lastStatus, ?noStatus⟩, ?rest⟩
  case noDelay =>
      intro hnone
      rw [Option.eq_none_iff_forall_ne_some]
      intro n hn
      obtain ⟨above, line, below, rfl, horder, -⟩ := (delay?_modify hdelay lines n).mp hn
      exact hnone line (by simp) n horder
  case lastStatus =>
      intro n hlast
      rw [status_respond, status_modify_lines hstatus, getLast?_number?_modifiersOf.mpr hlast]
      simp [Response.isStatus]
  case noStatus =>
      intro hnone
      rw [status_respond, status_modify_lines hstatus, filterMap_number?_eq_nil hnone]
      rfl
  case rest =>
      intro above rest below command limit hlines hword hlimit hnone
      have hmodifier := modifier?_of_not_orders hword hlimit hnone
      have hsame : RulesFile.modifiersOf lines = RulesFile.modifiersOf (above ++ below) := by
        simp [RulesFile.modifiersOf, hlines, hmodifier]
      exact congrArg request.modify hsame

namespace OrdersWitness

def request : Request := { url := "http://a.test/".toList, headers := Headers.empty }

def response : Response := ⟨200, Headers.empty⟩

def above : List Text :=
  ["$Delay 00018446744073709551615".toList, "$StatusCode 404".toList, "$delay +0250".toList,
    "$Delay 18446744073709551616".toList, "$StatusCode 1000".toList]

/-- One more than a status can be. -/
def beyond : Text := "StatusCode 65536".toList

def lines : List Text := above ++ [('$' :: beyond)]

end OrdersWitness

open Modifier OrdersWitness in
/-- The last delay is the one with a sign and a zero before it, as the one behind it is beyond the
limit.  The last status cannot be sent. -/
theorem modify_orders_beyond :
    request.delay? = none ∧ request.status = none ∧
      LastOrder .delay lines 250 ∧
      (request.modify (RulesFile.modifiersOf lines)).delay? = some 250 ∧
      LastOrder .statusCode lines 1000 ∧
      ((request.modify (RulesFile.modifiersOf lines)).respond response).status = 200 ∧
      (∀ n, ¬Orders .statusCode ('$' :: beyond) n) ∧
      request.modify (RulesFile.modifiersOf lines) =
        request.modify (RulesFile.modifiersOf above) := by
  have hunset : request.delay? = none := rfl
  obtain ⟨⟨hdelay, -⟩, hresponse, hinert⟩ := modify_orders hunset rfl lines
  have hlastDelay : LastOrder .delay lines 250 := getLast?_number?_modifiersOf.mp (by decide)
  have hlastStatus : LastOrder .statusCode lines 1000 :=
    getLast?_number?_modifiersOf.mp (by decide)
  have hbeyond : ∀ n, ¬Orders .statusCode ('$' :: beyond) n := not_orders_iff.mpr (by decide)
  exact ⟨rfl, rfl, hlastDelay, (hdelay 250).mpr hlastDelay, hlastStatus,
    (hresponse response).1 1000 hlastStatus, hbeyond,
    hinert above beyond [] .statusCode 65535 rfl (by decide) rfl hbeyond⟩

end Request

end Reroute
