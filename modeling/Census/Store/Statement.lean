import Census.Filters.Predicate
import Census.Page
/-! The statements sent to the database. Their texts depend on which fields a query constrains,
never on the values, which are bound to named parameters. -/
namespace Census.Store

structure Statement where
  text : String
  parameters : List (String × Cell)

def around (before condition after : String) : String :=
  before ++ (if condition = "" then " " else " " ++ condition ++ " ") ++ after

/-- The latest record of each deployment, newest first, with all services it ever reported. -/
def pageText (condition : String) : String :=
  around
    ("WITH latest_per_deployment AS ( SELECT DISTINCT ON (COALESCE(deployment_id, " ++
     "ip_address)) ip_address, mac_address, deployment_id, time, service_time, longitude, " ++
     "latitude, mg_version, service, country, city FROM telemetry")
    condition
    ("ORDER BY COALESCE(deployment_id, ip_address), time DESC ), page AS ( SELECT * FROM " ++
     "latest_per_deployment ORDER BY time DESC LIMIT %(limit)s OFFSET %(offset)s ), " ++
     "services_per_deployment AS ( SELECT COALESCE(t.deployment_id, t.ip_address) AS id, " ++
     "ARRAY_AGG(DISTINCT t.service) AS services FROM page p INNER JOIN telemetry t ON " ++
     "COALESCE(t.deployment_id, t.ip_address) = COALESCE(p.deployment_id, p.ip_address) " ++
     "GROUP BY COALESCE(t.deployment_id, t.ip_address) ) SELECT p.ip_address, " ++
     "p.mac_address, p.deployment_id, p.time, p.service_time, p.longitude, p.latitude, " ++
     "p.mg_version, p.service, p.country, p.city, s.services FROM page p LEFT JOIN " ++
     "services_per_deployment s ON COALESCE(p.deployment_id, p.ip_address) = s.id ORDER " ++
     "BY p.time DESC")

def summaryText (condition : String) : String :=
  around
    ("SELECT country, COUNT(DISTINCT COALESCE(deployment_id, ip_address)) AS " ++
     "number_of_deployments, ARRAY_AGG(DISTINCT city) FILTER (WHERE city IS NOT NULL) AS " ++
     "cities, ARRAY_AGG(DISTINCT service) FILTER (WHERE service IS NOT NULL) AS services, " ++
     "ARRAY_AGG(DISTINCT mg_version) FILTER (WHERE mg_version IS NOT NULL) AS versions " ++
     "FROM telemetry")
    condition
    ("GROUP BY country")

def insertText : String :=
  "INSERT INTO telemetry (ip_address, mac_address, deployment_id, longitude, latitude, " ++
    "mg_version, service, time, country, city, service_time) VALUES (%(ip_address)s, " ++
    "%(mac_address)s, %(deployment_id)s, %(longitude)s, %(latitude)s, %(mg_version)s, " ++
    "%(service)s, %(time)s, %(country)s, %(city)s, %(service_time)s)"

def pageStatement (page : PageMetadata) (f : Filters) : Statement where
  text := pageText f.condition
  parameters := f.parameters ++
    [("limit", .plain (.int page.limit)), ("offset", .plain (.int page.offset))]

def summaryStatement (f : Filters) : Statement where
  text := summaryText f.condition
  parameters := f.parameters

def nullable (s : String) : Cell :=
  .plain (if s = "" then .null else .string s)

def momentOrNull : Option Time.Moment → Cell
  | none => .plain .null
  | some m => .moment m

/-- Binds a record to the columns of the table; one without a time of arrival arrives now. -/
def insertStatement (now : Time.Moment) (r : Record) : Statement where
  text := insertText
  parameters :=
    [("ip_address", .plain (.string r.ipAddress)),
     ("mac_address", nullable r.macAddress),
     ("deployment_id", nullable r.deploymentId),
     ("longitude", .plain (.float r.longitude)),
     ("latitude", .plain (.float r.latitude)),
     ("mg_version", .plain (.string r.version)),
     ("service", .plain (.string r.service)),
     ("time", .moment (r.lastSeen.getD now)),
     ("country", .plain (.string r.country)),
     ("city", .plain (.string r.city)),
     ("service_time", momentOrNull r.serviceTime)]

def tableText : String :=
  "\n".intercalate
    ["",
     "    CREATE TABLE IF NOT EXISTS telemetry (",
     "        time            TIMESTAMPTZ NOT NULL,",
     "        service_time    TIMESTAMPTZ,",
     "        ip_address      TEXT NOT NULL,",
     "        mac_address     TEXT,",
     "        deployment_id   TEXT,",
     "        longitude       FLOAT NOT NULL,",
     "        latitude        FLOAT NOT NULL,",
     "        mg_version      TEXT,",
     "        service         TEXT,",
     "        country         TEXT,",
     "        city            TEXT",
     "    )",
     "    "]

def schema : List String :=
  [tableText,
   "CREATE INDEX IF NOT EXISTS idx_telemetry_time ON telemetry (time DESC)",
   "CREATE INDEX IF NOT EXISTS idx_telemetry_country_time ON telemetry (country, time " ++
    "DESC)",
   "CREATE INDEX IF NOT EXISTS idx_telemetry_city ON telemetry (city)",
   "CREATE INDEX IF NOT EXISTS idx_telemetry_service ON telemetry (service)",
   "CREATE INDEX IF NOT EXISTS idx_telemetry_mg_version ON telemetry (mg_version)",
   "CREATE INDEX IF NOT EXISTS idx_telemetry_ip_time ON telemetry (ip_address, time " ++
    "DESC)",
   "CREATE INDEX IF NOT EXISTS idx_telemetry_ip_service ON telemetry (ip_address, " ++
    "service)",
   "CREATE INDEX IF NOT EXISTS idx_telemetry_deployment_id ON telemetry (deployment_id)"]

/-- Policies that only some databases know. -/
def policies : List String :=
  ["SELECT create_hypertable('telemetry', 'time', chunk_time_interval => INTERVAL '1 " ++
    "day', if_not_exists => TRUE)",
   "SELECT add_retention_policy('telemetry', INTERVAL '1 year', if_not_exists => TRUE)"]

end Census.Store
