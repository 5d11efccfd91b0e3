-- The page of metrics: families of samples in the text form that collectors read.
import CompanySearch.Cache.State
import CompanySearch.Number.Shortest
import CompanySearch.Text.Quoted

namespace CompanySearch.Metrics

-- Sums and the order of lists are those of the core library, whatever else is imported.
attribute [local instance (high)] Zero.ofOfNat0 List.instLE

/-! ## Families -/

/-- The names and values that tell the series of a family apart. -/
abbrev Labels := List (String × String)

/-- The samples of one series. -/
inductive Series where
  | value (n : Nat)
  /-- Everything that was observed. -/
  | histogram (observed : List Nat)
  deriving DecidableEq, Repr

/-- A family of series, in the order in which they are shown. -/
structure Family where
  name : String
  help : String
  kind : String
  /-- The upper bounds of the buckets of histograms. -/
  bounds : List Nat
  /-- How many decimal places bounds and observations have; they are counts of the last one. -/
  places : Nat
  series : List (Labels × Series)
  deriving DecidableEq, Repr

/-! ## Lines -/

/-- A label's value, with backslashes, quotes and line ends escaped. -/
def labelValue (s : String) : String :=
  String.ofList (s.toList.flatMap fun c =>
    match c with
    | '\\' => ['\\', '\\']
    | '"' => ['\\', '"']
    | '\n' => ['\\', 'n']
    | c => [c])

def labelText (p : String × String) : String := p.1 ++ "=\"" ++ labelValue p.2 ++ "\""

/-- One sample: a name, labels in braces if there are any, and a value. -/
def sample (name : String) (labels : Labels) (value : String) : String :=
  let shown :=
    if labels.isEmpty then ""
    else "\x7b" ++ ",".intercalate (labels.map labelText) ++ "\x7d"
  name ++ shown ++ " " ++ value

/-- A count of units of the given decimal place, without zeros at its end. -/
def unitsText (places n : Nat) : String :=
  (Number.Scientific.mk n (-(places : Int))).normalized.positional

/-- The samples of one series. A histogram shows for each bound how many observations lie at or
below it, then for all, then their sum and their count. -/
def seriesLines (f : Family) (labels : Labels) : Series → List String
  | .value n => [sample f.name labels (toString n)]
  | .histogram observed =>
    let bucket (bound : String) (count : Nat) : String :=
      sample (f.name ++ "_bucket") (labels ++ [("le", bound)]) (toString count)
    f.bounds.map (fun b =>
        bucket (unitsText f.places b) (observed.countP fun n => decide (n ≤ b))) ++
      [bucket "+Inf" observed.length,
        sample (f.name ++ "_sum") labels (unitsText f.places observed.sum),
        sample (f.name ++ "_count") labels (toString observed.length)]

/-- The lines of a family. One without series is not shown. -/
def familyLines (f : Family) : List String :=
  if f.series.isEmpty then []
  else
    ("# HELP " ++ f.name ++ " " ++ f.help) :: ("# TYPE " ++ f.name ++ " " ++ f.kind) ::
      f.series.flatMap fun p => seriesLines f p.1 p.2

/-! ## What the service counts -/

/-- A request that has been answered, and how long that took in milliseconds. -/
structure Exchange where
  method : String
  path : String
  status : Nat
  took : Nat
  deriving DecidableEq, Repr

/-- The distinct values of a list in ascending order. -/
def distinct (texts : List (List String)) : List (List String) :=
  texts.eraseDups.mergeSort fun a b => decide (a ≤ b)

/-- Series from things that were counted: one for each distinct combination of label values. -/
def grouped (names : List String) (labelsOf : α → List String) (series : List α → Series)
    (counted : List α) : List (Labels × Series) :=
  (distinct (counted.map labelsOf)).map fun values =>
    (names.zip values, series (counted.filter fun a => labelsOf a == values))

def counter (name help : String) (n : Nat) : Family :=
  ⟨name, help, "counter", [], 0, [([], .value n)]⟩

/-- All families, by name. -/
def families (counters : Cache.Counters) (gauge : Nat) (exchanges : List Exchange) :
    List Family := [
  counter "tally_cache_hits_total" "Dataset reads served from a valid cache entry" counters.hits,
  counter "tally_cache_misses_total" "Dataset reads that found no valid cache entry"
    counters.misses,
  ⟨"tally_cache_records", "Number of records in the cached dataset", "gauge", [], 0,
    [([], .value gauge)]⟩,
  ⟨"tally_cache_refresh_duration_seconds",
    "Time spent fetching the dataset from the record store", "histogram",
    [5, 10, 50, 100, 250, 500, 1000, 2500, 5000, 10000, 30000], 3,
    [([], .histogram counters.fetchTimes)]⟩,
  counter "tally_cache_refresh_failures_total"
    "Dataset refreshes that failed to read the record store" counters.failures,
  counter "tally_cache_refreshes_total" "Successful dataset refreshes from the record store"
    counters.refreshes,
  ⟨"tally_http_request_duration_seconds", "HTTP request duration in seconds", "histogram",
    [1, 5, 10, 25, 50, 100, 250, 500, 1000, 2500, 5000, 10000], 3,
    grouped ["method", "path"] (fun e => [e.method, e.path])
      (fun es => .histogram (es.map Exchange.took)) exchanges⟩,
  ⟨"tally_http_requests_total", "Total number of HTTP requests", "counter", [], 0,
    grouped ["method", "path", "status"] (fun e => [e.method, e.path, toString e.status])
      (fun es => .value es.length) exchanges⟩,
  ⟨"tally_search_results", "Number of records returned by a search", "histogram",
    [0, 1, 10, 50, 100, 500, 1000, 5000, 10000], 0,
    grouped ["algorithm"] (fun s => [s.1]) (fun ss => .histogram (ss.map Prod.snd))
      counters.searches⟩]

/-- The lines of the page. -/
def pageLines (counters : Cache.Counters) (gauge : Nat) (exchanges : List Exchange) :
    List String := (families counters gauge exchanges).flatMap familyLines

/-- The page. -/
def page (counters : Cache.Counters) (gauge : Nat) (exchanges : List Exchange) : String :=
  String.join ((pageLines counters gauge exchanges).map (· ++ "\n"))

end CompanySearch.Metrics
