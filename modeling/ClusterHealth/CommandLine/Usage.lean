import ClusterHealth.CommandLine.Arguments

namespace ClusterHealth.CommandLine

def programName : String := "cluster-health"

def unlines (lines : List String) : String := String.join (lines.map (· ++ "\n"))

def usage : String :=
  unlines [
    "usage: cluster-health [-h] [--types TYPES] [--deadline DEADLINE_SECONDS]",
    "                      [\x7bapi,snapshot,healthinfo\x7d]"]

def helpText : String :=
  usage ++ unlines [
    "",
    "Cluster health client runtime entrypoint",
    "",
    "positional arguments:",
    "  \x7bapi,snapshot,healthinfo\x7d",
    "                        Runtime command: `api` starts the node agent,",
    "                        `snapshot` prints local system metrics, `healthinfo`",
    "                        requests the cluster health report",
    "",
    "options:",
    "  -h, --help            show this help message and exit",
    "  --types TYPES         Comma-separated health data types; all types when",
    "                        omitted",
    "  --deadline DEADLINE_SECONDS",
    "                        Server-side collection deadline in seconds for",
    "                        `healthinfo`"]

def UsageError.report (e : UsageError) : String :=
  usage ++ programName ++ ": error: " ++ e.message ++ "\n"

end ClusterHealth.CommandLine
