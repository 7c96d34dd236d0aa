/-! The script of the dashboard, as it is served. -/
namespace Census.Dashboard

/-- Puts the deployments on a map and fills the summary and the form. -/
def script : String :=
  "const urlParams = new URLSearchParams(window.location.search);\n" ++
    "const summary = document.getElementById(\"summary\");\n" ++
    "const summaryTop = document.getElementById(\"summary-top\");\n" ++
    "\n" ++
    "if (urlParams.get(\"offcanvas\") === \"false\") \x7b\n" ++
    "  document.getElementById(\"summary-btn\").style.display = \"none\";\n" ++
    "  document.getElementById(\"filter-btn\").style.display = \"none\";\n" ++
    "  summaryTop.innerHTML = document.getElementById(\"summary-text\").innerHTML;\n" ++
    "  summaryTop.style.display = \"block\";\n" ++
    "  summaryTop.style.padding = \"10px\";\n" ++
    "\x7d else if (urlParams.get(\"sidebar\") !== \"hidden\") \x7b\n" ++
    "  summary.classList.add(\"show\");\n" ++
    "\x7d\n" ++
    "\n" ++
    "if (urlParams.get(\"filter\") === \"hidden\") \x7b\n" ++
    "  document.getElementById(\"filter-btn\").style.display = \"none\";\n" ++
    "\x7d\n" ++
    "\n" ++
    "const map = L.map(\"map\", \x7b zoomControl: false, zoomSnap: 0.01 \x7d).setView(\n" ++
    "  [15, 0],\n" ++
    "  window.self !== window.top ? 2.8 : 3,\n" ++
    ");\n" ++
    "\n" ++
    "L.tileLayer(\"https://\x7bs\x7d.tile.osm.org/\x7bz\x7d/\x7bx\x7d/\x7by\x7d.png\", " ++
    "\x7b\n" ++
    "  attribution:\n" ++
    "    '&copy; <a href=\"http://osm.org/copyright\">OpenStreetMap</a> contributors',\n" ++
    "\x7d).addTo(map);\n" ++
    "L.control.zoom(\x7b position: \"bottomright\" \x7d).addTo(map);\n" ++
    "\n" ++
    "const markers = L.markerClusterGroup(\x7b\n" ++
    "  maxClusterRadius: 40,\n" ++
    "  disableClusteringAtZoom: 10,\n" ++
    "  spiderfyOnMaxZoom: true,\n" ++
    "  showCoverageOnHover: false,\n" ++
    "\x7d);\n" ++
    "\n" ++
    "function escapeHtml(value) \x7b\n" ++
    "  const div = document.createElement(\"div\");\n" ++
    "  div.textContent = value == null ? \"\" : String(value);\n" ++
    "  return div.innerHTML;\n" ++
    "\x7d\n" ++
    "\n" ++
    "(mapData.telemetry || []).forEach((deployment) => \x7b\n" ++
    "  const popup = [\n" ++
    "    `<strong>$\x7bescapeHtml(deployment.city || \"Unknown city\")\x7d, " ++
    "$\x7bescapeHtml(deployment.country)\x7d</strong>`,\n" ++
    "    `Version: $\x7bescapeHtml(deployment.magistrala_version)\x7d`,\n" ++
    "    `Services: $\x7bescapeHtml((deployment.services || []).join(\", \"))\x7d`,\n" ++
    "    `Last seen: $\x7bescapeHtml(new " ++
    "Date(deployment.last_seen).toLocaleString())\x7d`,\n" ++
    "  ].join(\"<br>\");\n" ++
    "  markers.addLayer(\n" ++
    "    L.marker([deployment.latitude, deployment.longitude]).bindPopup(popup),\n" ++
    "  );\n" ++
    "\x7d);\n" ++
    "map.addLayer(markers);\n" ++
    "\n" ++
    "const table = document.getElementById(\"country-table\");\n" ++
    "countries\n" ++
    "  .slice()\n" ++
    "  .sort((a, b) => b.number_of_deployments - a.number_of_deployments)\n" ++
    "  .forEach((c) => \x7b\n" ++
    "    const row = table.insertRow();\n" ++
    "    row.insertCell().textContent = c.country || \"Unknown\";\n" ++
    "    row.insertCell().textContent = c.number_of_deployments;\n" ++
    "  \x7d);\n" ++
    "\n" ++
    "function toRFC3339(value) \x7b\n" ++
    "  return value ? new Date(value).toISOString().replace(/\\.\\d\x7b3\x7dZ$/, \"Z\") " ++
    ": \"\";\n" ++
    "\x7d\n" ++
    "\n" ++
    "document.getElementById(\"filter-form\").addEventListener(\"submit\", (event) " ++
    "=> \x7b\n" ++
    "  const from = document.getElementById(\"from\").value;\n" ++
    "  const to = document.getElementById(\"to\").value;\n" ++
    "  if (from && to && new Date(to) < new Date(from)) \x7b\n" ++
    "    event.preventDefault();\n" ++
    "    alert(\"The end date must be after the start date.\");\n" ++
    "    return;\n" ++
    "  \x7d\n" ++
    "  const fromParam = document.getElementById(\"from-param\");\n" ++
    "  const toParam = document.getElementById(\"to-param\");\n" ++
    "  fromParam.value = toRFC3339(from);\n" ++
    "  toParam.value = toRFC3339(to);\n" ++
    "  [fromParam, toParam].forEach((input) => \x7b\n" ++
    "    if (!input.value) input.disabled = true;\n" ++
    "  \x7d);\n" ++
    "  Array.from(event.target.querySelectorAll(\"select\")).forEach((select) => \x7b\n" ++
    "    if (!select.value) select.disabled = true;\n" ++
    "  \x7d);\n" ++
    "\x7d);\n"

end Census.Dashboard
