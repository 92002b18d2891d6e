import SoloScreen.Desktop

/-!
# Injected faults

A desktop whose answers can be overridden. A rule names a kind of call, perhaps with one subject,
and an answer; it may let some calls pass first and may be used up. Of the rules that match a call
the first one that is not used up decides. A call that a rule answers does not reach the desktop.
-/

namespace SoloScreen

/-- A rule that answers calls in place of the desktop. -/
structure FaultRule where
  /-- The kind of call the rule is for. -/
  method : Method
  /-- The only subject the rule is for, or any. -/
  subject : Option Int
  /-- How many calls still pass. -/
  skip : Nat
  /-- How many calls the rule still answers, or all. -/
  times : Option Nat
  /-- The answer. -/
  answer : method.Answer

/-- The rule is for a call and not used up. -/
def FaultRule.applies (rule : FaultRule) (call : NativeCall) : Bool :=
  rule.method = call.method && (rule.subject.isNone || rule.subject == call.subject) &&
    rule.times != some 0

/-- The answer of the first rule that applies, unless it lets the call pass, and the rules after the
call. -/
def FaultRule.consult (call : NativeCall) :
    List FaultRule → Option call.Answer × List FaultRule
  | [] => (none, [])
  | rule :: rest =>
    if h : rule.method = call.method ∧ rule.applies call then
      if 0 < rule.skip then
        (none, { rule with skip := rule.skip - 1 } :: rest)
      else
        (some (cast (congrArg Method.Answer h.1) rule.answer),
          { rule with times := rule.times.map (· - 1) } :: rest)
    else
      let (answer, others) := consult call rest
      (answer, rule :: others)

/-- A desktop with rules in front of it. -/
structure FaultyDesktop where
  desktop : Desktop := {}
  rules : List FaultRule := []

namespace FaultyDesktop

/-- An action on the desktop itself. -/
def onDesktop {α : Type} (act : Action Desktop α) : Action FaultyDesktop α :=
  act.within (·.desktop) fun desktop faulty => { faulty with desktop }

/-- Add a rule after the others. -/
def addRule (rule : FaultRule) (faulty : FaultyDesktop) : FaultyDesktop :=
  { faulty with rules := faulty.rules ++ [rule] }

/-- Remove all rules. -/
def clearRules (faulty : FaultyDesktop) : FaultyDesktop := { faulty with rules := [] }

/-- What the rules say to a call. -/
def consult (call : NativeCall) (faulty : FaultyDesktop) : Option call.Answer × FaultyDesktop :=
  let (answer, rules) := FaultRule.consult call faulty.rules
  (answer, { faulty with rules })

instance : WindowSystem FaultyDesktop where
  call call := do
    match ← modifyGet (consult call) with
    | some answer => pure answer
    | none => onDesktop (WindowSystem.call call)
  readClock := onDesktop WindowSystem.readClock

end FaultyDesktop

end SoloScreen
