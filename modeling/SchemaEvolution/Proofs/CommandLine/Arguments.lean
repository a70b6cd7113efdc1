import Mathlib.Data.List.Basic
import SchemaEvolution.CommandLine.Arguments
import SchemaEvolution.Proofs.Text.Front

/-!
# Switches as arguments

A switch can be written with two dashes and, if it has a value, an equals sign and the value, whatever
stands in that (`Switch.argument`). Such arguments are never taken for anything else, so any number of
different ones in a row is read as these switches (`Level.read_arguments`). What is given after the
name of a command makes the command (`Request.read_command`).
-/

namespace SchemaEvolution.CommandLine

/-! ## Switches -/

namespace Switch

/-- A switch as an argument, with its value behind an equals sign. -/
def argument (s : Switch) (value : String) : String :=
  if s.takesValue then "--" ++ s.name ++ "=" ++ value else "--" ++ s.name

/-- Whether a switch goes with a command and may have a value. -/
structure Fits (s : Switch) (value : String) : Prop where
  accepts : s.accepts value = true
  of_not_takesValue : s.takesValue = false → value = ""
  ne_version : s ≠ .version
  ne_help : s ≠ .help

theorem name_inj {s s' : Switch} (h : s.name = s'.name) : s = s' := by
  cases s <;> cases s' <;> first | rfl | exact absurd h (by decide)

theorem ne_equals_of_mem_name {s : Switch} :
    ∀ c ∈ s.name.toList, decide (c ≠ '=') = true := by
  rw [← List.all_eq_true]
  cases s <;> decide

theorem find?_name {s : Switch} {switches : List Switch} (h : s ∈ switches) :
    switches.find? (fun s' => s'.name.toList == s.name.toList) = some s := by
  cases hfound : switches.find? (fun s' => s'.name.toList == s.name.toList) with
  | none => exact absurd (List.find?_eq_none.mp hfound s h) (by simp)
  | some s' =>
    have hname : s'.name.toList = s.name.toList := by simpa using List.find?_some hfound
    rw [name_inj (String.toList_inj.mp hname)]

theorem toList_argument (s : Switch) (value : String) :
    (s.argument value).toList =
      '-' :: '-' :: (s.name.toList ++ if s.takesValue then '=' :: value.toList else []) := by
  unfold argument
  cases s.takesValue with
  | true =>
    rw [if_pos rfl, if_pos rfl, String.toList_append, String.toList_append, String.toList_append,
      List.append_assoc, List.append_assoc]
    rfl
  | false =>
    rw [if_neg Bool.false_ne_true, if_neg Bool.false_ne_true, String.toList_append,
      List.append_nil]
    rfl

end Switch

/-! ## One level -/

theorem Given.has_eq_false {g : Given} {s : Switch} (h : s ∉ g.values.map Prod.fst) :
    g.has s = false := by
  have hlookup : g.values.lookup s = none := by
    rw [List.lookup_eq_none_iff]
    intro p hp
    have hne : s ≠ p.1 := fun heq => h (heq ▸ List.mem_map_of_mem hp)
    simpa using hne
  unfold has value?
  rw [hlookup]
  rfl

theorem Given.add_of_fits {g : Given} {s : Switch} {value : String} (hfits : s.Fits value)
    (hnew : g.has s = false) :
    g.add s value = .ok { g with values := g.values ++ [(s, value)] } := by
  have haccepts := hfits.accepts
  unfold add
  cases s with
  | version => exact absurd rfl hfits.ne_version
  | help => exact absurd rfl hfits.ne_help
  | _ => simp [hnew, haccepts]

namespace Level

variable {l : Level} {g : Given} {s : Switch} {value : String}

theorem isSwitch_argument (s : Switch) (value : String) : isSwitch (s.argument value) = true := by
  unfold isSwitch
  rw [Switch.toList_argument]
  rfl

theorem argument_ne_dashes (s : Switch) (value : String) : s.argument value ≠ "--" := by
  intro h
  have hlist := congrArg String.toList h
  rw [Switch.toList_argument] at hlist
  cases s <;> simp [Switch.name] at hlist

theorem readSwitch_argument (hs : s ∈ l.switches) (hfits : s.Fits value)
    (hnew : g.has s = false) :
    l.readSwitch g (s.argument value) =
      .ok ({ g with values := g.values ++ [(s, value)] }, none) := by
  have hfind := Switch.find?_name hs
  have hadd := Given.add_of_fits hfits hnew
  unfold readSwitch
  rw [Switch.toList_argument]
  show l.readName g _ = _
  unfold readName
  cases hvalue : s.takesValue with
  | true =>
    have hstops : Text.Stops (fun c => decide (c ≠ '=')) ('=' :: value.toList) := by simp
    simp only [if_true, Text.takeWhile_append Switch.ne_equals_of_mem_name hstops,
      Text.dropWhile_append Switch.ne_equals_of_mem_name hstops, hfind, hvalue,
      String.ofList_toList, hadd]
    rfl
  | false =>
    obtain rfl := hfits.of_not_takesValue hvalue
    simp only [Bool.false_eq_true, if_false,
      Text.takeWhile_append Switch.ne_equals_of_mem_name Text.stops_nil,
      Text.dropWhile_append Switch.ne_equals_of_mem_name Text.stops_nil, hfind, hvalue, hadd]
    rfl

/-- Switches that are given once each are read one after the other. -/
theorem read_arguments {pairs : List (Switch × String)}
    (hpairs : ∀ p ∈ pairs, p.1 ∈ l.switches ∧ p.1.Fits p.2)
    (hnodup : ((g.values ++ pairs).map Prod.fst).Nodup) (rest : List String) :
    l.read g none (pairs.map (fun p => p.1.argument p.2) ++ rest) =
      l.read { g with values := g.values ++ pairs } none rest := by
  induction pairs generalizing g with
  | nil =>
    rw [List.append_nil]
    rfl
  | cons p pairs ih =>
    obtain ⟨hs, hfits⟩ := hpairs p List.mem_cons_self
    have hnew : g.has p.1 = false := by
      apply Given.has_eq_false
      rw [List.map_append, List.map_cons, List.nodup_append] at hnodup
      intro hmem
      exact hnodup.2.2 p.1 hmem p.1 List.mem_cons_self rfl
    have hrest := ih (g := { g with values := g.values ++ [p] })
      (fun q hq => hpairs q (List.mem_cons_of_mem _ hq)) (by simpa using hnodup)
    rw [List.map_cons, List.cons_append, read, if_neg (argument_ne_dashes _ _),
      if_pos (isSwitch_argument _ _), readSwitch_argument hs hfits hnew]
    show l.read { g with values := g.values ++ [p] } none _ = _
    rw [hrest]
    simp

end Level

/-! ## Commands -/

/-- A command with what is given after its name. The settings file is that of the environment. -/
theorem Request.read_command {c : CommandName} {g : Given} {command : Command}
    {environment : Option String} {rest : List String}
    (hread : c.level.read {} none rest = .ok g) (hconfig : g.value? .config = none)
    (hverbose : g.has .verbose = false) (hcommand : c.command g = .ok command)
    (henvironment : environment ≠ some "") :
    read environment (c.name :: rest) = some (.run { settings := environment, command }) := by
  have hfront : front.readFront {} none (c.name :: rest) = .ok ({}, c.name, rest) := by
    cases c <;> rfl
  have hhelp : c.name ≠ "help" := by
    cases c <;> decide
  have hfind : CommandName.all.find? (·.name == c.name) = some c := by
    cases c <;> rfl
  have hsettings : settingsFile environment {} g = .ok environment := by
    have hnamed : (environment == some "") = false := beq_eq_false_iff_ne.mpr henvironment
    unfold settingsFile
    rw [hconfig, hnamed]
    rfl
  have hinvocation : readInvocation environment (c.name :: rest) =
      .ok { settings := environment, command } := by
    unfold readInvocation
    rw [hfront]
    simp only [bind, Except.bind, if_neg hhelp, hfind, hread, hsettings, hcommand, hverbose]
    rfl
  unfold read
  rw [hinvocation]

end SchemaEvolution.CommandLine
