import FacetedSearch.CommandLine.Report

/-!
The program.

This build has no network link, so every search that is not only printed is shown as a failed one:
without results, and with the token that brings it back.  Nothing that the command line can ask for
depends on the time of day.
-/

open FacetedSearch

/-- The variables that the settings are read from. -/
def settingVariables : List String :=
  ["SOLR_BASE_URL", "SEARCH_PAGE_SIZE", "SEARCH_CACHE_TTL_SECS", "SEARCH_FACET_LIMIT",
    "SEARCH_FACET_MIN_COUNT", "SEARCH_HTTP_TIMEOUT_SECS"]

/-- Runs the program and passes on its exit code. -/
def main (arguments : List String) : IO UInt32 := do
  let values ← settingVariables.mapM fun name => do
    return (name, ← IO.getEnv name)
  let lookup := fun name => (values.lookup name).bind id
  let outcome := CommandLine.run arguments lookup Calendar.Instant.epoch Link.down
  IO.print outcome.printed
  match outcome.failure with
  | some failure => IO.eprintln failure
  | none => if outcome.exit = 2 then IO.eprintln CommandLine.usage
  return UInt32.ofNat outcome.exit
