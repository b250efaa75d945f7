import PodPlacement.Command.Output
import PodPlacement.Proofs.Format.Spec
import PodPlacement.Proofs.Source

/-!
# What the commands print

A command that succeeds has printed one value and a line break, and nothing
that it prints is lost when it is read again. So the specification that the
enriching command prints is one that it leaves as it is.
-/

namespace PodPlacement

open Json

/-! ## Printing -/

/-- A value that is printed without an error is printed whole. -/
theorem Outlet.text_eq_of_print {outlet : Outlet} {value : Json} {text : String}
    (printed : outlet.print value = { written := text }) : text = value.pretty ++ "\n" := by
  cases outlet with
  | unlimited =>
      cases printed
      rfl
  | limited capacity error =>
      simp only [print] at printed
      split at printed
      · cases printed
      · split at printed
        · cases printed
        · cases printed
          rfl

/-! ## Printing specifications -/

variable {cluster : Cluster} {outlet : Outlet}

theorem exists_of_printEnriched {input text : String} {mode : Option String}
    (printed : printEnriched cluster input mode outlet = { written := text }) :
    ∃ spec, enrichInput cluster input mode = .ok spec ∧
      outlet.print spec.toJson = { written := text } := by
  rw [printEnriched] at printed
  split at printed
  · next spec asked => exact ⟨spec, asked, printed⟩
  · cases printed

/-- An input that asks for a specification has a document that asks for it. -/
theorem exists_document_of_enrichInput {input : String} {mode : Option String}
    {spec : PodSpec} (asked : enrichInput cluster input mode = .ok spec) :
    ∃ document, readDocument input mode = .ok document ∧
      document.toSpec cluster.source cluster.classes = .ok spec := by
  rw [enrichInput] at asked
  cases read : readDocument input mode with
  | error error =>
      rw [read] at asked
      cases asked
  | ok document =>
      refine ⟨document, rfl, ?_⟩
      rw [read] at asked
      simp only [bind, Except.bind] at asked
      cases answer : document.toSpec cluster.source cluster.classes with
      | error refusal =>
          rw [answer] at asked
          cases asked
      | ok other =>
          rw [answer] at asked
          cases asked
          rfl

/-- A specification that an input asks for is asked for by its own text. -/
theorem enrichInput_pretty {input : String} {mode : Option String} {spec : PodSpec}
    (asked : enrichInput cluster input mode = .ok spec) :
    enrichInput cluster (spec.toJson.pretty ++ "\n") none = .ok spec := by
  obtain ⟨document, _, answer⟩ := exists_document_of_enrichInput asked
  have read : readDocument (spec.toJson.pretty ++ "\n") none = .ok spec.document := by
    rw [readDocument, readText_pretty_line, SpecDocument.read_toJson]
    rfl
  rw [enrichInput, read]
  simp only [bind, Except.bind, SpecDocument.toSpec_document answer]
  rfl

/-- What the enriching command prints, it prints again when it reads it. -/
theorem printEnriched_printed {input text : String} {mode : Option String}
    (printed : printEnriched cluster input mode outlet = { written := text }) :
    printEnriched cluster text none outlet = { written := text } := by
  obtain ⟨spec, asked, output⟩ := exists_of_printEnriched printed
  have text_eq : text = spec.toJson.pretty ++ "\n" := Outlet.text_eq_of_print output
  rw [text_eq] at output ⊢
  rw [printEnriched, enrichInput_pretty asked]
  exact output

/-- Spot nodes with one label and one taint, and one priority class. -/
def Cluster.tainted : Cluster :=
  { nodes := .tainted
    classes := { default := some "standard", valid := ["standard"] } }

/-- What is printed for a pod that may run on spot nodes. -/
def Cluster.taintedText : String :=
  "\x7b\n  \"priorityClassName\": \"standard\",\n  \"tolerations\": [\n    \x7b\n" ++
    "      \"key\": \"preempt\",\n      \"operator\": \"Exists\",\n" ++
    "      \"effect\": \"NoSchedule\"\n    \x7d\n  ],\n" ++
    "  \"preemptionMode\": \"allow\"\n\x7d\n"

/-- The mode of the command line and the default class are printed, and what is
printed needs neither. -/
theorem printEnriched_printed_tainted :
    printEnriched .tainted "\x7b\x7d" (some "allow") .unlimited =
        { written := Cluster.taintedText } ∧
      printEnriched .tainted Cluster.taintedText none .unlimited =
        { written := Cluster.taintedText } := by
  have printed : printEnriched .tainted "\x7b\x7d" (some "allow") .unlimited =
      { written := Cluster.taintedText } := by decide +kernel
  exact ⟨printed, printEnriched_printed printed⟩

end PodPlacement
