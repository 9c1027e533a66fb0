/-
Grammars for conditions of scalar transport on a manifold.

They show the components at work: labelled values and a selection, a switch over three kinetic models of which one has a
vector sized by a count, and vectors sized by a count they share.
-/
import LineGrammar.Grammar.Definition

namespace LineGrammar.Manifold

/-- a text that is a token as a token -/
def token (text : String) (h : (Token.ofText? text).isSome = true := by decide) : Token :=
  (Token.ofText? text).get h

/-- a mandatory field without a description -/
def field (name : String) : Info :=
  ⟨name, false, .text ""⟩

def label (t : Token) : Component :=
  .separator t false (.text "")

/-- a label with an integer behind it -/
def labelledInt (t : Token) : List Component :=
  [label t, .scalar (field t.text) (.number (.int 0))]

/-- a label with a number of double precision behind it -/
def labelledReal (t : Token) : List Component :=
  [label t, .scalar (field t.text) (.number (.real .zero))]

def implementationTypes : List Literal :=
  [⟨token "Undefined", .int 0⟩, ⟨token "Standard", .int 1⟩, ⟨token "ElchElectrode", .int 2⟩,
    ⟨token "ElchDiffCond", .int 3⟩]

def implementationType : Selection where
  info := ⟨"ImplType", false, .text "implementation type"⟩
  literals := implementationTypes
  default := ⟨token "Undefined", .int 0⟩
  default_mem := by decide
  tokens_nodup := by decide
  values_nodup := by decide
  uniform := by decide

/-- the kinetic models, with the keys they are stored under -/
def constantInterfaceResistance : Literal := ⟨token "ConstantInterfaceResistance", .int 1⟩

def butlerVolmerReduced : Literal := ⟨token "Butler-VolmerReduced", .int 2⟩

def noInterfaceFlux : Literal := ⟨token "NoInterfaceFlux", .int 3⟩

def kineticModel : Selection where
  info := ⟨"KINETIC_MODEL", false, .text "kinetic model"⟩
  literals := [constantInterfaceResistance, butlerVolmerReduced, noInterfaceFlux]
  default := constantInterfaceResistance
  default_mem := by decide
  tokens_nodup := by decide
  values_nodup := by decide
  uniform := by decide

def constantInterfaceResistanceFields : List Component :=
  [label (token "ONOFF"), .vector (field "ONOFF") (.fixed 2) (.int 0)] ++
    labelledReal (token "RESISTANCE") ++ labelledInt (token "E-")

def butlerVolmerReducedFields : List Component :=
  labelledInt (token "NUMSCAL") ++
    [label (token "STOICHIOMETRIES"), .vector (field "STOICHIOMETRIES") (.takenFrom (.text "NUMSCAL")) (.int 0)] ++
    labelledInt (token "E-") ++ labelledReal (token "K_R") ++ labelledReal (token "ALPHA_A") ++
    labelledReal (token "ALPHA_C")

/-- a labelled integer, a labelled selection and a labelled number -/
def surface : LineDefinition where
  sectionName := .text "DESIGN SSI MANIFOLD SURF CONDITIONS"
  components := labelledInt (token "ConditionID") ++ [label (token "ImplType"), .selection implementationType] ++
    labelledReal (token "thickness")
  description := .text "scalar transport on manifold"
  resolved := by decide
  written_once := by decide

/-- a switch over the kinetic models -/
def kinetics : LineDefinition where
  sectionName := .text "DESIGN SSI MANIFOLD KINETICS SURF CONDITIONS"
  components := labelledInt (token "ConditionID") ++ labelledInt (token "ManifoldConditionID") ++
    [label (token "KINETIC_MODEL"),
      .switch kineticModel (.int 1)
        [⟨constantInterfaceResistance, constantInterfaceResistanceFields⟩,
          ⟨butlerVolmerReduced, butlerVolmerReducedFields⟩, ⟨noInterfaceFlux, []⟩]]
  description := .text "kinetics model for coupling scatra <-> scatra on manifold"
  resolved := by decide
  written_once := by decide

def sharedCount : Length := .takenFrom (.text "NUMDOF")

/-- vectors sized by a count they share, the last one optional -/
def dirichletFields : List Component :=
  labelledInt (token "NUMDOF") ++
    [label (token "ONOFF"), .vector (field "ONOFF") sharedCount (.int 0),
      label (token "VAL"), .vector (field "VAL") sharedCount (.real .zero),
      .separator (token "FUNCT") true (.text ""), .vector ⟨"FUNCT", true, .text ""⟩ sharedCount (.int 0)]

def dirichletIn (sectionName : Datum) : LineDefinition where
  sectionName
  components := dirichletFields
  description := .text "Surface Dirichlet"
  resolved := rfl
  written_once := rfl

def dirichlet : LineDefinition :=
  dirichletIn (.text "DESIGN SURF MANIFOLD DIRICH CONDITIONS")

def definitions : List LineDefinition :=
  [surface, kinetics, dirichlet]

end LineGrammar.Manifold
