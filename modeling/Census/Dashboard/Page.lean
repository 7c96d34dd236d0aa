import Census.Dashboard.Template
/-! The page of the dashboard. -/
namespace Census.Dashboard

/-- A summary, a form with the filters, and a map that a script fills from three constants. -/
def page : Template :=
  [.markup
      ("<!DOCTYPE html>\n" ++
       "<html lang=\"en\">\n" ++
       "  <head>\n" ++
       "    <meta charset=\"utf-8\" />\n" ++
       "    <meta name=\"viewport\" content=\"width=device-width, initial-scale=1\" />\n" ++
       "    <title>Magistrala Deployments</title>\n" ++
       "    <link rel=\"stylesheet\" " ++
       "href=\"https://unpkg.com/leaflet@1.9.4/dist/leaflet.css\" />\n" ++
       "    <link rel=\"stylesheet\" " ++
       "href=\"https://unpkg.com/leaflet.markercluster@1.5.3/dist/MarkerCluster." ++
       "css\" />\n" ++
       "    <link rel=\"stylesheet\" " ++
       "href=\"https://unpkg.com/leaflet.markercluster@1.5.3/dist/MarkerCluster." ++
       "Default.css\" />\n" ++
       "    <link\n" ++
       "      rel=\"stylesheet\"\n" ++
       "      " ++
       "href=\"https://cdn.jsdelivr.net/npm/bootstrap@5.3.3/dist/css/bootstrap.m" ++
       "in.css\"\n" ++
       "    />\n" ++
       "    <style>\n" ++
       "      html, body, #map \x7b height: 100%; margin: 0; \x7d\n" ++
       "      #summary \x7b width: 320px; \x7d\n" ++
       "      #summary-top \x7b display: none; position: absolute; top: 0; " ++
       "z-index: 1000; background: #fff; \x7d\n" ++
       "    </style>\n" ++
       "  </head>\n" ++
       "  <body>\n" ++
       "    <button id=\"summary-btn\" class=\"btn btn-light position-absolute " ++
       "m-2\" style=\"z-index: 1001\"\n" ++
       "      data-bs-toggle=\"offcanvas\" data-bs-target=\"#summary\">Summary</button>\n" ++
       "    <button id=\"filter-btn\" class=\"btn btn-light position-absolute m-2 " ++
       "end-0\" style=\"z-index: 1001\"\n" ++
       "      data-bs-toggle=\"modal\" data-bs-target=\"#filter-modal\">Filter</button>\n" ++
       "\n" ++
       "    <div id=\"summary-top\"></div>\n" ++
       "    <div id=\"summary\" class=\"offcanvas offcanvas-start\" " ++
       "data-bs-scroll=\"true\" data-bs-backdrop=\"false\">\n" ++
       "      <div class=\"offcanvas-body\" id=\"summary-text\">\n" ++
       "        <h5>Deployments</h5>\n" ++
       "        <p><strong>"),
   .value .deploymentCount,
   .markup
      ("</strong> deployments in <strong>"),
   .value .countryCount,
   .markup
      ("</strong> countries</p>\n" ++
       "        <table class=\"table table-sm\">\n" ++
       "          <thead><tr><th>Country</th><th>Deployments</th></tr></thead>\n" ++
       "          <tbody id=\"country-table\"></tbody>\n" ++
       "        </table>\n" ++
       "      </div>\n" ++
       "    </div>\n" ++
       "\n" ++
       "    <div class=\"modal\" id=\"filter-modal\" tabindex=\"-1\">\n" ++
       "      <div class=\"modal-dialog\">\n" ++
       "        <form class=\"modal-content\" method=\"get\" action=\"/\" " ++
       "id=\"filter-form\">\n" ++
       "          <div class=\"modal-body\">\n" ++
       "            <label class=\"form-label\" for=\"from\">From</label>\n" ++
       "            <input class=\"form-control\" type=\"datetime-local\" " ++
       "id=\"from\" value=\""),
   .value .start,
   .markup
      ("\" />\n" ++
       "            <label class=\"form-label\" for=\"to\">To</label>\n" ++
       "            <input class=\"form-control\" type=\"datetime-local\" id=\"to\" " ++
       "value=\""),
   .value .stop,
   .markup
      ("\" />\n" ++
       "\n" ++
       "            <label class=\"form-label\" for=\"country\">Country</label>\n" ++
       "            <select class=\"form-select\" name=\"country\" id=\"country\">\n" ++
       "              <option value=\"\">All</option>\n" ++
       "              "),
   .options .country,
   .markup
      ("\n" ++
       "            </select>\n" ++
       "\n" ++
       "            <label class=\"form-label\" for=\"city\">City</label>\n" ++
       "            <select class=\"form-select\" name=\"city\" id=\"city\">\n" ++
       "              <option value=\"\">All</option>\n" ++
       "              "),
   .options .city,
   .markup
      ("\n" ++
       "            </select>\n" ++
       "\n" ++
       "            <label class=\"form-label\" for=\"service\">Service</label>\n" ++
       "            <select class=\"form-select\" name=\"service\" id=\"service\">\n" ++
       "              <option value=\"\">All</option>\n" ++
       "              "),
   .options .service,
   .markup
      ("\n" ++
       "            </select>\n" ++
       "\n" ++
       "            <label class=\"form-label\" for=\"version\">Version</label>\n" ++
       "            <select class=\"form-select\" name=\"version\" id=\"version\">\n" ++
       "              <option value=\"\">All</option>\n" ++
       "              "),
   .options .version,
   .markup
      ("\n" ++
       "            </select>\n" ++
       "            <input type=\"hidden\" name=\"from\" id=\"from-param\" />\n" ++
       "            <input type=\"hidden\" name=\"to\" id=\"to-param\" />\n" ++
       "          </div>\n" ++
       "          <div class=\"modal-footer\">\n" ++
       "            <a class=\"btn btn-secondary\" href=\"/\">Reset</a>\n" ++
       "            <button class=\"btn btn-primary\" type=\"submit\">Apply</button>\n" ++
       "          </div>\n" ++
       "        </form>\n" ++
       "      </div>\n" ++
       "    </div>\n" ++
       "\n" ++
       "    <div id=\"map\"></div>\n" ++
       "\n" ++
       "    <script>\n" ++
       "      const countries = "),
   .script .countries,
   .markup
      (";\n" ++
       "      const cities = "),
   .script .cities,
   .markup
      (";\n" ++
       "      const mapData = "),
   .script .map,
   .markup
      (";\n" ++
       "    </script>\n" ++
       "    <script src=\"https://unpkg.com/leaflet@1.9.4/dist/leaflet.js\"></script>\n" ++
       "    <script " ++
       "src=\"https://unpkg.com/leaflet.markercluster@1.5.3/dist/leaflet.markerc" ++
       "luster.js\"></script>\n" ++
       "    <script " ++
       "src=\"https://cdn.jsdelivr.net/npm/bootstrap@5.3.3/dist/js/bootstrap.bun" ++
       "dle.min.js\"></script>\n" ++
       "    <script src=\"/static/app.js\"></script>\n" ++
       "  </body>\n" ++
       "</html>")]

end Census.Dashboard
